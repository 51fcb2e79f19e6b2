import Vauxr.Lib.Rank
import Vauxr.Lib.Text

/-!
The idle segmenter (`idle_segmenter.py`) and the queue of segments that its segments are put on
(`segment_queue.py`), down to the events and tasks of the loop.

A step of the queue's worker goes from one suspension to the next; between two of them anything may
happen: deltas, the timer, the end of the reply, the abort event. Nothing that is put on an open
queue is lost or said twice, and a worker that has something to do is never asleep for good.
-/

namespace Vauxr.Voice.Segments

open Vauxr.Lib

/-! ### The segmenter -/

structure Segmenter where
  buffer : Text
  ended : Bool
  timer : Bool
  deriving DecidableEq

namespace Segmenter

def new : Segmenter := ⟨[], false, false⟩

def push (idleEnabled : Bool) (s : Segmenter) (t : Text) : Segmenter :=
  if s.ended || t.isEmpty then s
  else { s with buffer := s.buffer ++ t, timer := idleEnabled || s.timer }

/-- `end`, with what it calls `on_end` with. -/
def finish (s : Segmenter) : Segmenter × Option (Option Text) :=
  if s.ended then (s, none)
  else if s.buffer.isEmpty then (⟨[], true, false⟩, some none)
  else (⟨[], true, false⟩, some (some s.buffer))

def abort (s : Segmenter) : Segmenter := if s.ended then s else ⟨[], true, false⟩

/-- The timer fires; with what `on_segment` is called with. -/
def flush (s : Segmenter) : Segmenter × Option Text :=
  if s.ended || s.buffer.isEmpty then ({ s with timer := false }, none)
  else ({ s with timer := false, buffer := [] }, some s.buffer)

@[simp] lemma ended_push (idleEnabled : Bool) (s : Segmenter) (t : Text) :
    (s.push idleEnabled t).ended = s.ended := by
  unfold push
  split <;> rfl

lemma buffer_push {s : Segmenter} (h : s.ended = false) (idleEnabled : Bool) (t : Text) :
    (s.push idleEnabled t).buffer = s.buffer ++ t := by
  unfold push
  by_cases ht : t.isEmpty = true
  · rw [if_pos (by simp [ht]), List.isEmpty_iff.mp ht, List.append_nil]
  · rw [if_neg (by simp [ht, h])]

lemma timer_push {idleEnabled : Bool} {s : Segmenter} {t : Text}
    (h : (s.push idleEnabled t).timer = true) : idleEnabled = true ∨ s.timer = true := by
  unfold push at h
  split at h
  · exact .inr h
  · simpa using h

end Segmenter

/-! ### The queue -/

/-- A task that waits for an event: not begun, asleep, woken by `set`, at its end. -/
inductive Wait
  | created | blocked | woken | done
  deriving DecidableEq

namespace Wait

/-- The event is set. -/
def notify : Wait → Wait
  | blocked => woken
  | w => w

/-- The task runs; `flag` is the event. -/
def step (flag : Bool) : Wait → Option Wait
  | created => some (if flag then done else blocked)
  | woken => some done
  | blocked | done => none

def rank : Wait → ℕ
  | created => 2
  | blocked | woken => 1
  | done => 0

@[simp] lemma notify_ne_blocked (w : Wait) : w.notify ≠ blocked := by cases w <;> simp [notify]

@[simp] lemma rank_notify (w : Wait) : w.notify.rank = w.rank := by cases w <;> rfl

lemma rank_step {flag : Bool} {w w' : Wait} (h : w.step flag = some w') : w'.rank < w.rank := by
  cases w <;> cases flag <;> simp only [step, Option.some.injEq, reduceCtorEq] at h
  all_goals
    subst h
    decide

lemma step_ne_blocked {flag : Bool} {w w' : Wait} (hf : flag = true)
    (h : w.step flag = some w') : w' ≠ .blocked := by
  subst hf
  cases w <;> simp only [step, Option.some.injEq, reduceCtorEq, if_true] at h
  all_goals
    subst h
    decide

end Wait

inductive Worker
  | created
  | waiting (abortWait wakeWait : Wait)
  | synthesizing (segment : Text)
  | done
  deriving DecidableEq

/-- `synthesized` lists what `synthesize` was called with, `failures` what `on_error` was called
for. -/
structure Queue where
  items : List Text
  closed : Bool
  wakeup : Bool
  abort : Bool
  worker : Worker
  synthesized : List Text
  failures : List Text
  deriving DecidableEq

namespace Queue

def new : Queue := ⟨[], false, false, false, .created, [], []⟩

/-- `self._wakeup.set()`. -/
def wake (q : Queue) : Queue :=
  match q.worker with
  | .waiting a w => { q with wakeup := true, worker := .waiting a w.notify }
  | _ => { q with wakeup := true }

def push (q : Queue) (segment : Text) : Queue :=
  if q.closed || segment.isEmpty then q else { q with items := q.items ++ [segment] }.wake

def close (q : Queue) : Queue := if q.closed then q else { q with closed := true }.wake

/-- The abort event is set. -/
def setAbort (q : Queue) : Queue :=
  match q.worker with
  | .waiting a w => { q with abort := true, worker := .waiting a.notify w }
  | _ => { q with abort := true }

/-- The loop of the worker from its top to its next suspension. -/
def top (q : Queue) : Queue :=
  if q.abort then { q with worker := .done }
  else
    match q.items with
    | [] =>
      if q.closed then { q with worker := .done }
      else { q with wakeup := false, worker := .waiting .created .created }
    | segment :: items =>
      { q with
        items := items
        worker := .synthesizing segment
        synthesized := q.synthesized ++ [segment] }

end Queue

/-! ### The two together -/

/-- How a turn uses them: whether the timer is on, and what is said of a segment. -/
structure Setup where
  idleEnabled : Bool
  spoken : Text → Text

/-- `pushed` is what the segmenter took. -/
structure State where
  segmenter : Segmenter
  queue : Queue
  pushed : Text
  deriving DecidableEq

def State.new : State := ⟨.new, .new, []⟩

inductive Act
  | push (t : Text)
  /-- The timer fires. -/
  | pause
  | finish
  /-- A turn that has failed: `segmenter.abort(); queue.close()`. -/
  | giveUp
  | close
  | abort
  /-- The worker's first step, the two tasks it waits for, the end of that wait. -/
  | start
  | abortWait
  | wakeWait
  | resume
  /-- The call of `synthesize` returns, or raises. -/
  | synthesized (ok : Bool)
  deriving DecidableEq

/-- A step of the worker or of a task it waits for. -/
def Act.ofWorker : Act → Bool
  | .start | .abortWait | .wakeWait | .resume | .synthesized _ => true
  | .push _ | .pause | .finish | .giveUp | .close | .abort => false

/-- The turn is given up, its queue closed over its head, or its abort event set. -/
def Act.aborts : Act → Bool
  | .giveUp | .close | .abort => true
  | _ => false

namespace Queue

/-- A step of the worker, when it can take it. -/
def work (q : Queue) : Act → Option Queue
  | .start => if q.worker = .created then some q.top else none
  | .abortWait =>
    match q.worker with
    | .waiting a w => (a.step q.abort).map fun a => { q with worker := .waiting a w }
    | _ => none
  | .wakeWait =>
    match q.worker with
    | .waiting a w => (w.step q.wakeup).map fun w => { q with worker := .waiting a w }
    | _ => none
  | .resume =>
    match q.worker with
    | .waiting a w => if a = .done ∨ w = .done then some q.top else none
    | _ => none
  | .synthesized ok =>
    match q.worker with
    | .synthesizing segment =>
      some (if ok then q else { q with failures := q.failures ++ [segment] }).top
    | _ => none
  | _ => none

end Queue

namespace State

def onSegment (setup : Setup) (s : State) (segment : Text) : State :=
  { s with queue := s.queue.push (setup.spoken segment) }

def onEnd (setup : Setup) (s : State) (final : Option Text) : State :=
  let s := match final with
    | some segment => s.onSegment setup segment
    | none => s
  { s with queue := s.queue.close }

def step (setup : Setup) (s : State) : Act → Option State
  | .push t =>
    some { s with
      segmenter := s.segmenter.push setup.idleEnabled t
      pushed := if s.segmenter.ended then s.pushed else s.pushed ++ t }
  | .pause =>
    if s.segmenter.timer then
      let (segmenter, segment) := s.segmenter.flush
      some (match segment with
        | some segment => { s with segmenter }.onSegment setup segment
        | none => { s with segmenter })
    else none
  | .finish =>
    let (segmenter, called) := s.segmenter.finish
    some (match called with
      | some final => { s with segmenter }.onEnd setup final
      | none => { s with segmenter })
  | .giveUp => some { s with segmenter := s.segmenter.abort, queue := s.queue.close }
  | .close => some { s with queue := s.queue.close }
  | .abort => some { s with queue := s.queue.setAbort }
  | act => (s.queue.work act).map fun queue => { s with queue }

def run (setup : Setup) (s : State) (acts : List Act) : Option State :=
  acts.foldlM (step setup) s

end State

/-! ### What a reply is cut into -/

/-- What comes in of a reply. -/
inductive Event
  | delta (t : Text)
  | pause
  deriving DecidableEq

/-- The parts before the last pause, and the part after it. -/
def cutUp (es : List Event) : List Text × Text :=
  es.foldl (fun
    | (done, part), .delta t => (done, part ++ t)
    | (done, part), .pause => (done ++ [part], [])) ([], [])

/-- A reply, cut where it pauses. -/
def pieces (es : List Event) : List Text := (cutUp es).1 ++ [(cutUp es).2]

def replyText (es : List Event) : Text :=
  (es.map fun | .delta t => t | .pause => []).flatten

/-- What is said of some pieces: nothing of those that are empty. -/
def said (spoken : Text → Text) (cut : List Text) : List Text :=
  ((cut.filter (! ·.isEmpty)).map spoken).filter (! ·.isEmpty)

def Act.event? : Act → Option Event
  | .push t => some (.delta t)
  | .pause => some .pause
  | _ => none

/-- The deltas and pauses up to the end of the reply. -/
def events (acts : List Act) : List Event := (acts.takeWhile (· ≠ .finish)).filterMap Act.event?

@[simp] lemma cutUp_delta (es : List Event) (t : Text) :
    cutUp (es ++ [.delta t]) = ((cutUp es).1, (cutUp es).2 ++ t) := by
  simp [cutUp, List.foldl_append]

@[simp] lemma cutUp_pause (es : List Event) :
    cutUp (es ++ [.pause]) = ((cutUp es).1 ++ [(cutUp es).2], []) := by
  simp [cutUp, List.foldl_append]

lemma flatten_pieces (es : List Event) : (pieces es).flatten = replyText es := by
  induction es using List.reverseRecOn with
  | nil => rfl
  | append_singleton es e ih =>
    unfold pieces at ih ⊢
    cases e with
    | delta t =>
      have hreply : replyText (es ++ [.delta t]) = replyText es ++ t := by simp [replyText]
      rw [hreply, ← ih, cutUp_delta]
      simp
    | pause =>
      have hreply : replyText (es ++ [.pause]) = replyText es := by simp [replyText]
      rw [hreply, ← ih, cutUp_pause]
      simp

lemma said_append (spoken : Text → Text) (a b : List Text) :
    said spoken (a ++ b) = said spoken a ++ said spoken b := by
  simp [said, List.filter_append, List.map_append]

lemma flatten_said {spoken : Text → Text} (hempty : spoken [] = []) (cut : List Text) :
    (said spoken cut).flatten = (cut.map spoken).flatten := by
  induction cut with
  | nil => rfl
  | cons t cut ih =>
    have hcons : said spoken (t :: cut) = said spoken [t] ++ said spoken cut :=
      said_append spoken [t] cut
    rw [hcons, List.flatten_append, ih, List.map_cons, List.flatten_cons]
    congr 1
    cases t with
    | nil => simp [said, hempty]
    | cons c t => cases h : spoken (c :: t) <;> simp [said, h]

lemma said_single (spoken : Text → Text) (t : Text) :
    said spoken [t] = if t.isEmpty || (spoken t).isEmpty then [] else [spoken t] := by
  cases ht : t.isEmpty
  · cases hs : (spoken t).isEmpty <;> simp [said, ht, hs]
  · simp [said, ht]

lemma replyText_delta (es : List Event) (t : Text) :
    replyText (es ++ [.delta t]) = replyText es ++ t := by simp [replyText]

lemma replyText_pause (es : List Event) : replyText (es ++ [.pause]) = replyText es := by
  simp [replyText]

lemma events_append (acts : List Act) (a : Act) :
    events (acts ++ [a]) =
      if .finish ∈ acts then events acts else events acts ++ a.event?.toList := by
  unfold events
  split
  next h =>
    have htake : (acts ++ [a]).takeWhile (· ≠ .finish) = acts.takeWhile (· ≠ .finish) := by
      induction acts with
      | nil => simp at h
      | cons b acts ih =>
        by_cases hb : b = .finish
        · simp [hb]
        · have hmem : .finish ∈ acts := by
            rcases List.mem_cons.mp h with h | h
            · exact absurd h.symm hb
            · exact h
          have hih := ih hmem
          simp only [List.cons_append, List.takeWhile_cons] at hih ⊢
          rw [hih]
    rw [htake]
  next h =>
    have hall : ∀ b ∈ acts, decide (b ≠ .finish) = true := by
      intro b hb
      simp only [decide_eq_true_eq]
      rintro rfl
      exact h hb
    rw [List.takeWhile_append_of_pos hall, List.takeWhile_eq_self_iff.mpr hall,
      List.filterMap_append]
    cases a <;> simp [Act.event?]

/-! ### What the queue has taken -/

namespace Queue

/-- Everything that was put on the queue. -/
def taken (q : Queue) : List Text := q.synthesized ++ q.items

@[simp] lemma taken_wake (q : Queue) : q.wake.taken = q.taken := by
  unfold wake
  split <;> rfl

@[simp] lemma closed_wake (q : Queue) : q.wake.closed = q.closed := by
  unfold wake
  split <;> rfl

@[simp] lemma abort_wake (q : Queue) : q.wake.abort = q.abort := by
  unfold wake
  split <;> rfl

@[simp] lemma taken_close (q : Queue) : q.close.taken = q.taken := by
  unfold close
  split
  · rfl
  · rw [taken_wake]
    rfl

@[simp] lemma closed_close (q : Queue) : q.close.closed = true := by
  unfold close
  split
  · assumption
  · rw [closed_wake]

@[simp] lemma abort_close (q : Queue) : q.close.abort = q.abort := by
  unfold close
  split
  · rfl
  · rw [abort_wake]

lemma taken_push (q : Queue) (segment : Text) :
    (q.push segment).taken =
      q.taken ++ if q.closed || segment.isEmpty then [] else [segment] := by
  unfold push
  split
  · simp
  · rw [taken_wake]
    simp [taken]

@[simp] lemma closed_push (q : Queue) (segment : Text) : (q.push segment).closed = q.closed := by
  unfold push
  split
  · rfl
  · rw [closed_wake]

@[simp] lemma abort_push (q : Queue) (segment : Text) : (q.push segment).abort = q.abort := by
  unfold push
  split
  · rfl
  · rw [abort_wake]

/-- What the worker does at the top of its loop. -/
lemma top_cases (q : Queue) :
    (q.abort = true ∧ q.top = { q with worker := .done }) ∨
    (q.abort = false ∧ q.items = [] ∧ q.closed = true ∧ q.top = { q with worker := .done }) ∨
    (q.abort = false ∧ q.items = [] ∧ q.closed = false ∧
      q.top = { q with wakeup := false, worker := .waiting .created .created }) ∨
    (q.abort = false ∧ ∃ segment items, q.items = segment :: items ∧
      q.top = { q with
        items := items
        worker := .synthesizing segment
        synthesized := q.synthesized ++ [segment] }) := by
  unfold top
  cases ha : q.abort
  · cases hi : q.items with
    | nil => cases hc : q.closed <;> simp
    | cons segment items => simp
  · simp

lemma top_keeps (q : Queue) :
    q.top.taken = q.taken ∧ q.top.closed = q.closed ∧ q.top.abort = q.abort := by
  rcases q.top_cases with ⟨-, h⟩ | ⟨-, -, -, h⟩ | ⟨-, -, -, h⟩ | ⟨-, segment, items, hi, h⟩
  · rw [h]
    exact ⟨rfl, rfl, rfl⟩
  · rw [h]
    exact ⟨rfl, rfl, rfl⟩
  · rw [h]
    exact ⟨rfl, rfl, rfl⟩
  · rw [h]
    exact ⟨by simp [taken, hi], rfl, rfl⟩

/-- The steps of the worker. -/
lemma work_cases {q q' : Queue} {act : Act} (h : q.work act = some q') :
    (∃ failures, (q.worker ≠ .done) ∧ (∀ a w, q.worker = .waiting a w → a = .done ∨ w = .done) ∧
      q' = { q with failures := failures }.top) ∨
    (∃ a w a', q.worker = .waiting a w ∧ a.step q.abort = some a' ∧
      q' = { q with worker := .waiting a' w }) ∨
    (∃ a w w', q.worker = .waiting a w ∧ w.step q.wakeup = some w' ∧
      q' = { q with worker := .waiting a w' }) := by
  cases act with
  | start =>
    simp only [work] at h
    split at h
    next hw =>
      cases h
      refine .inl ⟨q.failures, ?_, ?_, rfl⟩ <;> simp [hw]
    next => cases h
  | abortWait =>
    simp only [work] at h
    split at h
    next a w hw =>
      obtain ⟨a', ha, rfl⟩ := Option.map_eq_some_iff.mp h
      exact .inr (.inl ⟨a, w, a', hw, ha, rfl⟩)
    next => cases h
  | wakeWait =>
    simp only [work] at h
    split at h
    next a w hw =>
      obtain ⟨w', ha, rfl⟩ := Option.map_eq_some_iff.mp h
      exact .inr (.inr ⟨a, w, w', hw, ha, rfl⟩)
    next => cases h
  | resume =>
    simp only [work] at h
    split at h
    next a w hw =>
      split at h
      next hdone =>
        cases h
        refine .inl ⟨q.failures, ?_, ?_, rfl⟩
        · simp [hw]
        · intro a' w' hw'
          rw [hw] at hw'
          cases hw'
          exact hdone
      next => cases h
    next => cases h
  | synthesized ok =>
    simp only [work] at h
    split at h
    next segment hw =>
      cases h
      refine .inl ⟨if ok then q.failures else q.failures ++ [segment], ?_, ?_, ?_⟩
      · simp [hw]
      · simp [hw]
      · cases ok <;> rfl
    next => cases h
  | push | pause | finish | giveUp | close | abort => cases h

lemma work_keeps {q q' : Queue} {act : Act} (h : q.work act = some q') :
    q'.taken = q.taken ∧ q'.closed = q.closed ∧ q'.abort = q.abort := by
  rcases work_cases h with ⟨failures, -, -, rfl⟩ | ⟨a, w, a', -, -, rfl⟩ | ⟨a, w, w', -, -, rfl⟩
  · exact top_keeps _
  · exact ⟨rfl, rfl, rfl⟩
  · exact ⟨rfl, rfl, rfl⟩

/-! ### No wakeup is lost -/

/-- A worker that waits for something that is there has been woken, or looks at the event first. -/
structure Awake (q : Queue) : Prop where
  wakes : ∀ a w, q.worker = .waiting a w → q.items ≠ [] ∨ q.closed = true → q.wakeup = true
  wakeWait : ∀ a w, q.worker = .waiting a w → q.wakeup = true → w ≠ .blocked
  abortWait : ∀ a w, q.worker = .waiting a w → q.abort = true → a ≠ .blocked
  finished : q.worker = .done → q.abort = true ∨ q.closed = true ∧ q.items = []

lemma Awake.new : Awake new := by
  constructor <;> simp [Queue.new]

lemma Awake.wake {q : Queue} (habort : ∀ a w, q.worker = .waiting a w → q.abort = true → a ≠ .blocked)
    (hdone : q.worker = .done → q.abort = true ∨ q.closed = true ∧ q.items = []) :
    Awake q.wake := by
  unfold Queue.wake
  split
  next a w hw =>
    constructor
    · intro _ _ _ _
      rfl
    · intro a' w' h _
      cases h
      exact w.notify_ne_blocked
    · intro a' w' h ha
      cases h
      exact habort a w hw ha
    · intro h
      cases h
  next hw =>
    constructor
    · intro a w h
      exact absurd h (hw a w)
    · intro a w h
      exact absurd h (hw a w)
    · intro a w h
      exact absurd h (hw a w)
    · exact hdone

lemma Awake.push {q : Queue} (h : Awake q) (segment : Text) : Awake (q.push segment) := by
  unfold Queue.push
  split
  · exact h
  next hopen =>
    refine Awake.wake (q := { q with items := q.items ++ [segment] }) h.abortWait fun hw => ?_
    rcases h.finished hw with ha | ⟨hc, -⟩
    · exact .inl ha
    · simp [hc] at hopen

lemma Awake.close {q : Queue} (h : Awake q) : Awake q.close := by
  unfold Queue.close
  split
  · exact h
  next hopen =>
    refine Awake.wake (q := { q with closed := true }) h.abortWait fun hw => ?_
    rcases h.finished hw with ha | ⟨hc, -⟩
    · exact .inl ha
    · exact absurd hc hopen

lemma Awake.setAbort {q : Queue} (h : Awake q) : Awake q.setAbort := by
  unfold Queue.setAbort
  split
  next a w hw =>
    constructor
    · intro a' w' _ hi
      exact h.wakes a w hw hi
    · intro a' w' h' hwake
      cases h'
      exact h.wakeWait a w hw hwake
    · intro a' w' h' _
      cases h'
      exact a.notify_ne_blocked
    · intro h'
      cases h'
  next hw =>
    constructor
    · intro a w h'
      exact absurd h' (hw a w)
    · intro a w h'
      exact absurd h' (hw a w)
    · intro a w h'
      exact absurd h' (hw a w)
    · intro _
      exact .inl rfl

lemma Awake.top (q : Queue) : Awake q.top := by
  rcases q.top_cases with ⟨ha, h⟩ | ⟨-, hi, hc, h⟩ | ⟨ha, hi, hc, h⟩ | ⟨-, segment, items, -, h⟩
  · rw [h]
    constructor <;> simp [ha]
  · rw [h]
    constructor <;> simp [hi, hc]
  · rw [h]
    constructor <;> simp [ha, hi, hc]
  · rw [h]
    constructor <;> simp

lemma Awake.work {q q' : Queue} {act : Act} (h : Awake q) (hq : q.work act = some q') :
    Awake q' := by
  rcases work_cases hq with
    ⟨failures, -, -, rfl⟩ | ⟨a, w, a', hw, ha, rfl⟩ | ⟨a, w, w', hw, hw', rfl⟩
  · exact Awake.top _
  · constructor
    · intro _ _ _ hi
      exact h.wakes a w hw hi
    · intro _ _ h' hwake
      cases h'
      exact h.wakeWait a w hw hwake
    · intro _ _ h' habort
      cases h'
      exact Wait.step_ne_blocked habort ha
    · intro h'
      cases h'
  · constructor
    · intro _ _ _ hi
      exact h.wakes a w hw hi
    · intro _ _ h' hwake
      cases h'
      exact Wait.step_ne_blocked hwake hw'
    · intro _ _ h' habort
      cases h'
      exact h.abortWait a w hw habort
    · intro h'
      cases h'

/-- The worker, or a task it waits for, can go on, unless it is done or there is nothing to do. -/
lemma Awake.progress {q : Queue} (h : Awake q) (hw : q.worker ≠ .done)
    (hdo : q.items ≠ [] ∨ q.closed = true ∨ q.abort = true) :
    ∃ act, act.ofWorker = true ∧ (q.work act).isSome := by
  cases hworker : q.worker with
  | created => exact ⟨.start, rfl, by simp [Queue.work, hworker]⟩
  | synthesizing segment => exact ⟨.synthesized true, rfl, by simp [Queue.work, hworker]⟩
  | done => exact absurd hworker hw
  | waiting a w =>
    by_cases hdone : a = .done ∨ w = .done
    · exact ⟨.resume, rfl, by simp [Queue.work, hworker, hdone]⟩
    · rw [not_or] at hdone
      by_cases habort : q.abort = true
      · have hblocked := h.abortWait a w hworker habort
        refine ⟨.abortWait, rfl, ?_⟩
        cases a <;> simp_all [Queue.work, Wait.step]
      · have hwake : q.wakeup = true := by
          refine h.wakes a w hworker ?_
          rcases hdo with hi | hc | ha
          · exact .inl hi
          · exact .inr hc
          · exact absurd ha habort
        have hblocked := h.wakeWait a w hworker hwake
        refine ⟨.wakeWait, rfl, ?_⟩
        cases w <;> simp_all [Queue.work, Wait.step]

/-! ### The worker comes to its end -/

/-- How many steps are ahead of a worker whose queue is closed or aborted. -/
def rank (q : Queue) : ℕ :=
  (match q.worker with
    | .created => 2
    | .waiting a w => 2 + a.rank + w.rank
    | .synthesizing _ => 1
    | .done => 0) + if q.abort then 0 else q.items.length

/-- The queue takes no more, or its worker no more of it. -/
def Ending (q : Queue) : Prop := q.closed = true ∨ q.abort = true

lemma rank_wake (q : Queue) : q.wake.rank = q.rank := by
  unfold wake
  split
  next a w hw => simp [rank, hw]
  next => rfl

lemma rank_close (q : Queue) : q.close.rank = q.rank := by
  unfold close
  split
  · rfl
  · rw [rank_wake]
    rfl

lemma rank_setAbort_le (q : Queue) : q.setAbort.rank ≤ q.rank := by
  unfold setAbort
  split
  next a w hw => simp [rank, hw]
  next => simp [rank]

lemma rank_push_of_ending {q : Queue} (h : q.Ending) (segment : Text) :
    (q.push segment).rank = q.rank := by
  unfold push
  split
  · rfl
  next hopen =>
    rcases h with hc | ha
    · simp [hc] at hopen
    · rw [rank_wake]
      simp [rank, ha]

lemma rank_top_le {q : Queue} (h : q.Ending) :
    q.top.rank ≤ if q.abort then 0 else q.items.length := by
  rcases q.top_cases with ⟨ha, ht⟩ | ⟨ha, hi, -, ht⟩ | ⟨ha, -, hc, -⟩ | ⟨ha, segment, items, hi, ht⟩
  · rw [ht]
    simp [rank, ha]
  · rw [ht]
    simp [rank, ha]
  · rcases h with h | h
    · rw [hc] at h
      cases h
    · rw [ha] at h
      cases h
  · rw [ht]
    simp only [rank, ha, hi, List.length_cons, Bool.false_eq_true, if_false]
    omega

lemma rank_work_lt {q q' : Queue} {act : Act} (h : q.Ending) (hq : q.work act = some q') :
    q'.rank < q.rank := by
  rcases work_cases hq with
    ⟨failures, hdone, -, rfl⟩ | ⟨a, w, a', hw, ha, rfl⟩ | ⟨a, w, w', hw, hw', rfl⟩
  · have hle := rank_top_le (q := { q with failures := failures }) h
    refine lt_of_le_of_lt hle ?_
    cases hworker : q.worker with
    | done => exact absurd hworker hdone
    | created | synthesizing | waiting =>
      simp only [rank, hworker]
      omega
  · have hlt := Wait.rank_step ha
    simp only [rank, hw]
    omega
  · have hlt := Wait.rank_step hw'
    simp only [rank, hw]
    omega

end Queue

/-! ### Runs -/

namespace State

variable {setup : Setup}

@[simp] lemma run_nil (s : State) : s.run setup [] = some s := rfl

@[simp] lemma run_append (s : State) (acts more : List Act) :
    s.run setup (acts ++ more) = (s.run setup acts).bind fun s => s.run setup more := by
  unfold run
  rw [List.foldlM_append]
  rfl

@[simp] lemma run_single (s : State) (act : Act) : s.run setup [act] = s.step setup act := by
  simp [run]

/-- The state of a run of which nobody has aborted the turn. -/
structure Kept (setup : Setup) (acts : List Act) (s : State) : Prop where
  ended : s.segmenter.ended = true ↔ .finish ∈ acts
  closed : s.queue.closed = s.segmenter.ended
  abort : s.queue.abort = false
  timer : s.segmenter.timer = true → setup.idleEnabled = true ∧ s.segmenter.ended = false
  pushed : s.pushed = replyText (events acts)
  buffer : s.segmenter.buffer = if s.segmenter.ended then [] else (cutUp (events acts)).2
  taken : s.queue.taken =
    said setup.spoken (if s.segmenter.ended then pieces (events acts) else (cutUp (events acts)).1)

lemma Kept.new : Kept setup [] .new := by
  constructor <;> simp [State.new, Segmenter.new, Queue.new, Queue.taken, events, replyText, cutUp,
    said]

lemma Kept.push {acts : List Act} {s : State} (h : Kept setup acts s) (t : Text) :
    Kept setup (acts ++ [.push t])
      { s with
        segmenter := s.segmenter.push setup.idleEnabled t
        pushed := if s.segmenter.ended then s.pushed else s.pushed ++ t } := by
  by_cases hend : s.segmenter.ended = true
  · have hsame : s.segmenter.push setup.idleEnabled t = s.segmenter := by
      simp [Segmenter.push, hend]
    have hes : events (acts ++ [.push t]) = events acts := by
      rw [events_append, if_pos (h.ended.mp hend)]
    rw [hsame, if_pos hend]
    constructor
    · simpa using h.ended
    · exact h.closed
    · exact h.abort
    · exact h.timer
    · rw [hes]
      exact h.pushed
    · rw [hes]
      exact h.buffer
    · rw [hes]
      exact h.taken
  · have hfin : .finish ∉ acts := fun hm => hend (h.ended.mpr hm)
    have hes : events (acts ++ [.push t]) = events acts ++ [.delta t] := by
      rw [events_append, if_neg hfin]
      rfl
    have hbuffer := h.buffer
    have htaken := h.taken
    rw [if_neg hend] at hbuffer htaken
    rw [if_neg hend]
    have hbuf := Segmenter.buffer_push (Bool.not_eq_true _ ▸ hend) setup.idleEnabled t
    constructor
    · simpa using h.ended
    · simpa using h.closed
    · exact h.abort
    · intro ht
      refine ⟨?_, by simpa using hend⟩
      rcases Segmenter.timer_push ht with ht | ht
      · exact ht
      · exact (h.timer ht).1
    · simp only [hes, replyText_delta, h.pushed]
    · simp only [hes, Segmenter.ended_push, if_neg hend, hbuf, cutUp_delta, hbuffer]
    · simp only [hes, Segmenter.ended_push, if_neg hend, cutUp_delta, htaken]

lemma Kept.pause {acts : List Act} {s s' : State} (h : Kept setup acts s)
    (hs : s.step setup .pause = some s') : Kept setup (acts ++ [.pause]) s' := by
  simp only [step] at hs
  split at hs
  next htimer =>
    have hend := (h.timer htimer).2
    have hfin : .finish ∉ acts := fun hm => by simp [h.ended.mpr hm] at hend
    have hopen : s.queue.closed = false := by rw [h.closed, hend]
    have hes : events (acts ++ [.pause]) = events acts ++ [.pause] := by
      rw [events_append, if_neg hfin]
      rfl
    have hbuffer := h.buffer
    have htaken := h.taken
    simp only [hend, Bool.false_eq_true, if_false] at hbuffer htaken
    have hmem : Act.finish ∈ acts ++ [Act.pause] ↔ Act.finish ∈ acts := by simp
    by_cases hempty : s.segmenter.buffer.isEmpty = true
    · simp only [Segmenter.flush, hempty, Bool.or_true, if_true, Option.some.injEq] at hs
      subst hs
      have hnil : (cutUp (events acts)).2 = [] := by
        rw [← hbuffer]
        exact List.isEmpty_iff.mp hempty
      constructor
      · rw [hmem]
        exact h.ended
      · exact h.closed
      · exact h.abort
      · intro ht
        cases ht
      · simp only [hes, replyText_pause, h.pushed]
      · simpa [hes, hend] using List.isEmpty_iff.mp hempty
      · simp only [hes, hend, Bool.false_eq_true, if_false, cutUp_pause, said_append, hnil, htaken]
        simp [said]
    · simp only [Bool.not_eq_true] at hempty
      simp only [Segmenter.flush, hend, hempty, Bool.or_self, Bool.false_eq_true, if_false,
        onSegment, Option.some.injEq] at hs
      subst hs
      constructor
      · simp [hfin]
      · simp only [Queue.closed_push, hopen]
      · simp only [Queue.abort_push, h.abort]
      · intro ht
        cases ht
      · simp only [hes, replyText_pause, h.pushed]
      · simp [hes]
      · simp only [hes, Bool.false_eq_true, if_false, cutUp_pause, said_append,
          Queue.taken_push, htaken, hopen, said_single, ← hbuffer, hempty]
  next => cases hs

lemma Kept.finish {acts : List Act} {s s' : State} (h : Kept setup acts s)
    (hs : s.step setup .finish = some s') : Kept setup (acts ++ [.finish]) s' := by
  have hes : events (acts ++ [.finish]) = events acts := by
    rw [events_append]
    split
    · rfl
    · exact List.append_nil _
  have hmem : Act.finish ∈ acts ++ [Act.finish] := by simp
  simp only [step] at hs
  by_cases hend : s.segmenter.ended = true
  · simp only [Segmenter.finish, hend, if_true, Option.some.injEq] at hs
    subst hs
    exact ⟨by simp [hend], h.closed, h.abort, h.timer, hes ▸ h.pushed, hes ▸ h.buffer,
      hes ▸ h.taken⟩
  · simp only [Bool.not_eq_true] at hend
    have hopen : s.queue.closed = false := by rw [h.closed, hend]
    have hbuffer := h.buffer
    have htaken := h.taken
    simp only [hend, Bool.false_eq_true, if_false] at hbuffer htaken
    by_cases hempty : s.segmenter.buffer.isEmpty = true
    · simp only [Segmenter.finish, hend, hempty, Bool.false_eq_true, if_false, if_true, onEnd,
        Option.some.injEq] at hs
      subst hs
      have hnil : (cutUp (events acts)).2 = [] := by
        rw [← hbuffer]
        exact List.isEmpty_iff.mp hempty
      constructor
      · simp
      · simp
      · simpa using h.abort
      · simp
      · simpa [hes] using h.pushed
      · simp
      · simp only [hes, if_true, pieces, said_append, hnil, Queue.taken_close, htaken]
        simp [said]
    · simp only [Bool.not_eq_true] at hempty
      simp only [Segmenter.finish, hend, hempty, Bool.false_eq_true, if_false, onEnd, onSegment,
        Option.some.injEq] at hs
      subst hs
      constructor
      · simp
      · simp
      · simpa using h.abort
      · simp
      · simpa [hes] using h.pushed
      · simp
      · simp only [hes, if_true, pieces, said_append, Queue.taken_close, Queue.taken_push, htaken,
          hopen, said_single, ← hbuffer, hempty, Bool.false_or]

lemma step_of_work {s : State} {act : Act} (hw : act.ofWorker = true) :
    s.step setup act = (s.queue.work act).map fun queue => { s with queue } := by
  cases act with
  | push | pause | finish | giveUp | close | abort => cases hw
  | start | abortWait | wakeWait | resume | synthesized => rfl

lemma step_ofWorker {s s' : State} {act : Act} (hw : act.ofWorker = true)
    (hs : s.step setup act = some s') :
    ∃ queue, s.queue.work act = some queue ∧ s' = { s with queue } := by
  rw [step_of_work hw] at hs
  obtain ⟨queue, hq, rfl⟩ := Option.map_eq_some_iff.mp hs
  exact ⟨queue, hq, rfl⟩

lemma Kept.work {acts : List Act} {s s' : State} {act : Act} (h : Kept setup acts s)
    (hw : act.ofWorker = true) (hs : s.step setup act = some s') :
    Kept setup (acts ++ [act]) s' := by
  obtain ⟨queue, hq, rfl⟩ := step_ofWorker hw hs
  obtain ⟨htaken, hclosed, habort⟩ := Queue.work_keeps hq
  have hne : act ≠ .finish := by
    rintro rfl
    cases hw
  have hes : events (acts ++ [act]) = events acts := by
    rw [events_append]
    split
    · rfl
    · have hnone : act.event? = none := by cases act <;> first | rfl | cases hw
      rw [hnone]
      exact List.append_nil _
  constructor
  · simpa [Ne.symm hne] using h.ended
  · rw [hclosed]
    exact h.closed
  · rw [habort]
    exact h.abort
  · exact h.timer
  · rw [hes]
    exact h.pushed
  · rw [hes]
    exact h.buffer
  · rw [hes, htaken]
    exact h.taken

lemma Kept.step {acts : List Act} {s s' : State} {act : Act} (h : Kept setup acts s)
    (ha : act.aborts = false) (hs : s.step setup act = some s') :
    Kept setup (acts ++ [act]) s' := by
  cases act with
  | push t =>
    cases hs
    exact h.push t
  | pause => exact h.pause hs
  | finish => exact h.finish hs
  | giveUp | close | abort => cases ha
  | start | abortWait | wakeWait | resume | synthesized => exact h.work rfl hs

/-- A property of the state and the actions so far that every allowed step preserves. -/
lemma run_induction (P : List Act → State → Prop) (ok : Act → Prop) (h0 : P [] .new)
    (hstep : ∀ acts s act s', P acts s → ok act → s.step setup act = some s' →
      P (acts ++ [act]) s') {acts : List Act} {s : State} (hrun : State.new.run setup acts = some s)
    (hok : ∀ act ∈ acts, ok act) : P acts s := by
  induction acts using List.reverseRecOn generalizing s with
  | nil =>
    cases hrun
    exact h0
  | append_singleton acts act ih =>
    rw [run_append] at hrun
    obtain ⟨s₁, hs₁, hs⟩ := Option.bind_eq_some_iff.mp hrun
    rw [run_single] at hs
    refine hstep acts s₁ act s (ih hs₁ fun a ha => hok a ?_) (hok act ?_) hs
    · exact List.mem_append_left _ ha
    · exact List.mem_append_right _ (List.mem_singleton_self _)

lemma run_kept {acts : List Act} {s : State} (hrun : State.new.run setup acts = some s)
    (hok : ∀ act ∈ acts, act.aborts = false) : Kept setup acts s :=
  run_induction (Kept setup) (fun act => act.aborts = false) Kept.new
    (fun _ _ _ _ h ha hs => h.step ha hs) hrun hok

/-! ### The abort event, and the end -/

lemma step_awake {s s' : State} {act : Act} (h : s.queue.Awake)
    (hs : s.step setup act = some s') : s'.queue.Awake := by
  cases act with
  | push t =>
    cases hs
    exact h
  | pause =>
    simp only [step] at hs
    split at hs
    next =>
      cases hs
      split
      · exact h.push _
      · exact h
    next => cases hs
  | finish =>
    simp only [step] at hs
    cases hs
    split
    · unfold onEnd
      split
      · exact (h.push _).close
      · exact h.close
    · exact h
  | giveUp | close =>
    cases hs
    exact h.close
  | abort =>
    cases hs
    exact h.setAbort
  | start | abortWait | wakeWait | resume | synthesized =>
    obtain ⟨queue, hq, rfl⟩ := step_ofWorker rfl hs
    exact h.work hq

lemma run_awake {acts : List Act} {s : State} (hrun : State.new.run setup acts = some s) :
    s.queue.Awake :=
  run_induction (fun _ s => s.queue.Awake) (fun _ => True) Queue.Awake.new
    (fun _ _ _ _ h _ hs => step_awake h hs) hrun fun _ _ => trivial

/-- What a step does to a queue that is ending. -/
lemma step_ending {s s' : State} {act : Act} (h : s.queue.Ending)
    (hs : s.step setup act = some s') : s'.queue.Ending ∧ s'.queue.rank ≤ s.queue.rank := by
  cases act with
  | push t =>
    cases hs
    exact ⟨h, le_rfl⟩
  | pause =>
    simp only [step] at hs
    split at hs
    next =>
      cases hs
      split
      · refine ⟨?_, (Queue.rank_push_of_ending h _).le⟩
        simpa [onSegment, Queue.Ending] using h
      · exact ⟨h, le_rfl⟩
    next => cases hs
  | finish =>
    simp only [step] at hs
    cases hs
    split
    · unfold onEnd
      refine ⟨.inl (Queue.closed_close _), ?_⟩
      rw [Queue.rank_close]
      split
      · exact (Queue.rank_push_of_ending h _).le
      · exact le_rfl
    · exact ⟨h, le_rfl⟩
  | giveUp | close =>
    cases hs
    exact ⟨.inl (Queue.closed_close _), (Queue.rank_close _).le⟩
  | abort =>
    cases hs
    refine ⟨.inr ?_, Queue.rank_setAbort_le _⟩
    unfold Queue.setAbort
    split <;> rfl
  | start | abortWait | wakeWait | resume | synthesized =>
    obtain ⟨queue, hq, rfl⟩ := step_ofWorker rfl hs
    obtain ⟨-, hclosed, habort⟩ := Queue.work_keeps hq
    refine ⟨?_, (Queue.rank_work_lt h hq).le⟩
    unfold Queue.Ending
    rw [hclosed, habort]
    exact h

/-- Nothing more is said once the abort event is set. -/
lemma step_aborted {s s' : State} {act : Act} (h : s.queue.abort = true)
    (hs : s.step setup act = some s') :
    s'.queue.abort = true ∧ s'.queue.synthesized = s.queue.synthesized := by
  have hwake : ∀ q : Queue, q.wake.synthesized = q.synthesized := by
    intro q
    unfold Queue.wake
    split <;> rfl
  have hclose : ∀ q : Queue, q.close.synthesized = q.synthesized := by
    intro q
    unfold Queue.close
    split
    · rfl
    · exact hwake _
  have hpush : ∀ (q : Queue) t, (q.push t).synthesized = q.synthesized := by
    intro q t
    unfold Queue.push
    split
    · rfl
    · exact hwake _
  cases act with
  | push t =>
    cases hs
    exact ⟨h, rfl⟩
  | pause =>
    simp only [step] at hs
    split at hs
    next =>
      cases hs
      split
      · exact ⟨by simpa [onSegment] using h, hpush _ _⟩
      · exact ⟨h, rfl⟩
    next => cases hs
  | finish =>
    simp only [step] at hs
    cases hs
    split
    · unfold onEnd
      split
      · exact ⟨by simpa [onSegment] using h, (hclose _).trans (hpush _ _)⟩
      · exact ⟨by simpa using h, hclose _⟩
    · exact ⟨h, rfl⟩
  | giveUp | close =>
    cases hs
    exact ⟨by simpa using h, hclose _⟩
  | abort =>
    cases hs
    unfold Queue.setAbort
    split <;> exact ⟨rfl, rfl⟩
  | start | abortWait | wakeWait | resume | synthesized =>
    obtain ⟨queue, hq, rfl⟩ := step_ofWorker rfl hs
    refine ⟨(Queue.work_keeps hq).2.2.trans h, ?_⟩
    rcases Queue.work_cases hq with
      ⟨failures, -, -, rfl⟩ | ⟨a, w, a', -, -, rfl⟩ | ⟨a, w, w', -, -, rfl⟩
    · simp [Queue.top, h]
    · rfl
    · rfl

lemma run_aborted {s s' : State} {acts : List Act} (h : s.queue.abort = true)
    (hrun : s.run setup acts = some s') : s'.queue.synthesized = s.queue.synthesized := by
  induction acts generalizing s with
  | nil =>
    cases hrun
    rfl
  | cons act acts ih =>
    have hcons : s.run setup (act :: acts) =
        (s.step setup act).bind fun s => s.run setup acts := by
      rw [← List.singleton_append, run_append, run_single]
    rw [hcons] at hrun
    obtain ⟨s₁, hs₁, hs⟩ := Option.bind_eq_some_iff.mp hrun
    obtain ⟨habort, hsame⟩ := step_aborted h hs₁
    exact (ih habort hs).trans hsame

/-- A run without end, in which the loop leaves no task that can go on waiting for good and every
call of `synthesize` comes to an end; `none` where nothing happens. -/
structure Execution (setup : Setup) (s : ℕ → State) (act : ℕ → Option Act) : Prop where
  new : s 0 = .new
  next : ∀ n, (match act n with
    | some a => (s n).step setup a
    | none => some (s n)) = some (s (n + 1))
  fair : ∀ n, (∃ a, a.ofWorker = true ∧ ((s n).step setup a).isSome) →
    ∃ m, n ≤ m ∧ ∃ a, act m = some a ∧ a.ofWorker = true

lemma Execution.awake {s : ℕ → State} {act : ℕ → Option Act} (h : Execution setup s act) (n : ℕ) :
    (s n).queue.Awake := by
  induction n with
  | zero =>
    rw [h.new]
    exact Queue.Awake.new
  | succ n ih =>
    have hn := h.next n
    split at hn
    · exact step_awake ih hn
    · rw [← Option.some.inj hn]
      exact ih

lemma Execution.ending {s : ℕ → State} {act : ℕ → Option Act} (h : Execution setup s act) {n : ℕ}
    (hn : (s n).queue.Ending) :
    (s (n + 1)).queue.Ending ∧ (s (n + 1)).queue.rank ≤ (s n).queue.rank := by
  have hnext := h.next n
  split at hnext
  · exact step_ending hn hnext
  · rw [← Option.some.inj hnext]
    exact ⟨hn, le_rfl⟩

/-- A segmenter that has ended has closed the queue. -/
lemma step_closed {s s' : State} {act : Act}
    (h : s.segmenter.ended = true → s.queue.closed = true) (hs : s.step setup act = some s') :
    (s'.segmenter.ended = true → s'.queue.closed = true) ∧
      (act = .finish ∨ act.aborts = true → s'.queue.Ending) := by
  cases act with
  | push t =>
    cases hs
    refine ⟨fun hend => h ?_, by simp [Act.aborts]⟩
    revert hend
    simp only [Segmenter.push]
    split <;> exact id
  | pause =>
    simp only [step] at hs
    split at hs
    next =>
      have hended : s.segmenter.flush.1.ended = s.segmenter.ended := by
        unfold Segmenter.flush
        split <;> rfl
      cases hs
      refine ⟨?_, by simp [Act.aborts]⟩
      split
      · simpa [onSegment, hended] using h
      · simpa [hended] using h
    next => cases hs
  | finish =>
    have hclosed : s'.queue.closed = true := by
      simp only [step] at hs
      cases hs
      split
      · exact Queue.closed_close _
      next hnone =>
        refine h ?_
        revert hnone
        unfold Segmenter.finish
        split
        · exact fun _ => ‹_›
        · split <;> simp
    exact ⟨fun _ => hclosed, fun _ => .inl hclosed⟩
  | giveUp | close =>
    cases hs
    exact ⟨fun _ => Queue.closed_close _, fun _ => .inl (Queue.closed_close _)⟩
  | abort =>
    cases hs
    have hsame : s.queue.setAbort.closed = s.queue.closed ∧ s.queue.setAbort.abort = true := by
      unfold Queue.setAbort
      split <;> exact ⟨rfl, rfl⟩
    exact ⟨fun hend => hsame.1.trans (h hend), fun _ => .inr hsame.2⟩
  | start | abortWait | wakeWait | resume | synthesized =>
    obtain ⟨queue, hq, rfl⟩ := step_ofWorker rfl hs
    refine ⟨fun hend => (Queue.work_keeps hq).2.1.trans (h hend), by simp [Act.aborts]⟩

lemma Execution.closed {s : ℕ → State} {act : ℕ → Option Act} (h : Execution setup s act)
    (n : ℕ) : (s n).segmenter.ended = true → (s n).queue.closed = true := by
  induction n with
  | zero =>
    rw [h.new]
    intro hend
    cases hend
  | succ n ih =>
    have hn := h.next n
    split at hn
    · exact (step_closed ih hn).1
    · rw [← Option.some.inj hn]
      exact ih

/-- The worker of a queue that is ending comes to its end. -/
lemma Execution.done {s : ℕ → State} {act : ℕ → Option Act} (h : Execution setup s act) {n : ℕ}
    (hn : (s n).queue.Ending) : ∃ m, n ≤ m ∧ (s m).queue.worker = .done := by
  have hall : ∀ m, n ≤ m → (s m).queue.Ending := by
    intro m hm
    induction hm with
    | refl => exact hn
    | step _ ih => exact (h.ending ih).1
  refine eventually_of_rank (fun s : State => s.queue.rank)
    (fun s : State => s.queue.worker = .done) (fun m hm => (h.ending (hall m hm)).2) ?_
  intro m hm hdone
  have hdo : (s m).queue.items ≠ [] ∨ (s m).queue.closed = true ∨ (s m).queue.abort = true :=
    .inr (hall m hm)
  obtain ⟨a, ha, hwork⟩ := (h.awake m).progress hdone hdo
  have hstep : ((s m).step setup a).isSome := by
    obtain ⟨queue, hq⟩ := Option.isSome_iff_exists.mp hwork
    rw [step_of_work ha, hq]
    rfl
  obtain ⟨k, hk, b, hb, hbw⟩ := h.fair m ⟨a, ha, hstep⟩
  refine ⟨k, hk, ?_⟩
  have hnext := h.next k
  rw [hb] at hnext
  obtain ⟨queue, hq, hs⟩ := step_ofWorker hbw hnext
  have hlt := Queue.rank_work_lt (hall k (hm.trans hk)) hq
  simpa only [hs] using hlt

end State

/-! ### Lossless speech -/

/-- The segments handed over as they are. -/
def plain (idleEnabled : Bool) : Setup := ⟨idleEnabled, id⟩

lemma said_id (cut : List Text) : said id cut = cut.filter (! ·.isEmpty) := by
  simp [said]

lemma flatten_said_id (cut : List Text) : (said id cut).flatten = cut.flatten := by
  rw [flatten_said rfl, List.map_id]

/-- **Segmented speech is lossless.** Of a turn that nobody aborts, what was synthesized, what is
queued and what is buffered is together the text pushed, each segment once and in order, whichever
calls of `synthesize` fail; when the worker is done, everything has been synthesized. Nothing is
begun after the abort event is set. A worker with something to do is never stuck, and it comes to
its end after the end of the reply, `close` or the abort event. -/
theorem segments_lossless (idleEnabled : Bool) :
    (∀ acts s, State.new.run (plain idleEnabled) acts = some s →
      (∀ act ∈ acts, act.aborts = false) →
      s.pushed = replyText (events acts) ∧
      s.queue.synthesized ++ s.queue.items <+: (pieces (events acts)).filter (! ·.isEmpty) ∧
      (s.queue.synthesized ++ s.queue.items).flatten ++ s.segmenter.buffer = s.pushed ∧
      [] ∉ s.queue.synthesized ++ s.queue.items ∧
      (s.queue.worker = .done → s.queue.synthesized.flatten = s.pushed)) ∧
    (∀ acts more s s', State.new.run (plain idleEnabled) acts = some s → s.queue.abort = true →
      s.run (plain idleEnabled) more = some s' → s'.queue.synthesized = s.queue.synthesized) ∧
    (∀ acts s, State.new.run (plain idleEnabled) acts = some s → s.queue.worker ≠ .done →
      s.queue.items ≠ [] ∨ s.queue.closed = true ∨ s.queue.abort = true →
      ∃ act, act.ofWorker = true ∧ (s.step (plain idleEnabled) act).isSome) ∧
    (∀ s act, State.Execution (plain idleEnabled) s act → ∀ n a, act n = some a →
      a = .finish ∨ a.aborts = true → ∃ m, n ≤ m ∧ (s m).queue.worker = .done) := by
  refine ⟨?_, ?_, ?_, ?_⟩
  · intro acts s hrun hok
    have hkept := State.run_kept hrun hok
    have htaken : s.queue.synthesized ++ s.queue.items =
        said id (if s.segmenter.ended then pieces (events acts) else (cutUp (events acts)).1) :=
      hkept.taken
    have hflat : (s.queue.synthesized ++ s.queue.items).flatten ++ s.segmenter.buffer =
        s.pushed := by
      rw [htaken, flatten_said_id, hkept.buffer, hkept.pushed, ← flatten_pieces]
      by_cases hend : s.segmenter.ended = true
      · rw [if_pos hend, if_pos hend, List.append_nil]
      · rw [if_neg hend, if_neg hend, pieces]
        simp
    refine ⟨hkept.pushed, ?_, hflat, ?_, ?_⟩
    · rw [htaken, said_id]
      split
      · exact List.prefix_rfl
      · exact (List.prefix_append _ _).filter _
    · rw [htaken, said_id]
      simp
    · intro hdone
      obtain ⟨hclosed, hitems⟩ : s.queue.closed = true ∧ s.queue.items = [] := by
        rcases (State.run_awake hrun).finished hdone with ha | h
        · rw [hkept.abort] at ha
          cases ha
        · exact h
      rw [hkept.closed] at hclosed
      have hbuffer := hkept.buffer
      rw [if_pos hclosed] at hbuffer
      rw [hitems, hbuffer, List.append_nil, List.append_nil] at hflat
      exact hflat
  · intro acts more s s' _ habort hmore
    exact State.run_aborted habort hmore
  · intro acts s hrun hdone hdo
    obtain ⟨act, ha, hwork⟩ := (State.run_awake hrun).progress hdone hdo
    refine ⟨act, ha, ?_⟩
    obtain ⟨queue, hq⟩ := Option.isSome_iff_exists.mp hwork
    rw [State.step_of_work ha, hq]
    rfl
  · intro s act hexec n a ha hends
    have hnext := hexec.next n
    rw [ha] at hnext
    have hending := (State.step_closed (hexec.closed n) hnext).2 hends
    obtain ⟨m, hm, hdone⟩ := hexec.done hending
    exact ⟨m, (Nat.le_succ n).trans hm, hdone⟩

/-- A turn with a pause, whose first segment fails. -/
def sampleActs : List Act :=
  [.start, .push [97, 98], .pause, .wakeWait, .push [99], .resume, .finish, .synthesized false,
    .synthesized true]

def sampleEnd : State :=
  ⟨⟨[], true, false⟩, ⟨[], true, true, false, .done, [[97, 98], [99]], [[97, 98]]⟩, [97, 98, 99]⟩

theorem segments_lossless_sample :
    State.new.run (plain true) sampleActs = some sampleEnd ∧
      sampleEnd.queue.synthesized.flatten = sampleEnd.pushed := by
  have hrun : State.new.run (plain true) sampleActs = some sampleEnd := by decide
  exact ⟨hrun, ((segments_lossless true).1 sampleActs sampleEnd hrun (by decide)).2.2.2.2 rfl⟩

end Vauxr.Voice.Segments
