import Mathlib

/-!
The output jitter buffer (`realtime/output_buffer.py`): audio that is held back at the start of a
response, and the four places that flush it.

A step lasts from one point of suspension to the next. The lock is a line of tasks: the head holds
it or is the next to have it, a task that asks for it joins at the end, and one that is cancelled
while it waits leaves the line. Frames that are neither audio nor markers pass by, and are left out.
-/

namespace Vauxr.OutputBuffer

/-- An audio frame: the place of its arrival among all frames, and how long it plays. -/
structure Frame where
  stamp : ℕ
  ms : ℚ

inductive Marker
  | responseStart | responseEnd | ttsStopped | endFrame
  deriving DecidableEq

/-- The downstream frame in process: audio, audio that is held or pushed by now, or a marker. -/
inductive Item
  | audio (f : Frame)
  | taken
  | marker (m : Marker) (stamp : ℕ)

/-- What leaves the buffer: audio, a marker, or an interruption or cancel frame. -/
inductive Out
  | audio (stamp : ℕ)
  | marker (stamp : ℕ)
  | system (stamp : ℕ)
  deriving DecidableEq

namespace Out

def stamp : Out → ℕ
  | .audio st => st
  | .marker st => st
  | .system st => st

def isAudio : Out → Bool
  | .audio _ => true
  | _ => false

end Out

inductive Task
  | frame
  | timer (k : ℕ)
  | handler (k : ℕ)
  deriving DecidableEq

/-- Where the task that holds the lock is suspended: it has not been resumed with the lock yet, it
waits for the end of a timer, or it pushes a frame, with or without more to flush. -/
inductive Work
  | granted
  | stopping (t : ℕ)
  | flushing (frames : List Frame) (epoch : ℕ)
  | pushing (o : Out)

inductive TimerStage
  | sleeping | inLine | over
  deriving DecidableEq

structure Timer where
  epoch : ℕ
  cancelled : Bool
  stage : TimerStage

inductive Kind
  | interruption | cancel | cleanup
  deriving DecidableEq

/-- A handler of an interruption or a cancel frame, or `cleanup`: in the base class, waiting for the
end of a timer, in line for the lock or holding it, or over. -/
inductive HandlerStage
  | base
  | stopping (t : ℕ)
  | inLine | over
  deriving DecidableEq

structure Handler where
  kind : Kind
  stamp : ℕ
  stage : HandlerStage

/-- `abandoned` is whether the base class has cancelled the frame in process. `clock` counts the
frames that have arrived; `arrived` and `out` are the audio that came in and all that went out. -/
structure State where
  held : List Frame
  heldMs : ℚ
  priming : Bool
  epoch : ℕ
  timer : Option ℕ
  closed : Bool
  line : List Task
  work : Work
  process : Option Item
  abandoned : Bool
  timers : List Timer
  handlers : List Handler
  clock : ℕ
  arrived : List ℕ
  out : List Out

/-- `resume` goes on with a task; `emitted` is whether a push that is cancelled has gone through. -/
inductive Action
  | audio (ms : ℚ)
  | marker (m : Marker)
  | interrupt (kind : Kind)
  | abandon
  | resume (t : Task) (emitted : Bool)

namespace State

def start : State :=
  { held := [], heldMs := 0, priming := true, epoch := 0, timer := none, closed := false,
    line := [], work := .granted, process := none, abandoned := false, timers := [],
    handlers := [], clock := 0, arrived := [], out := [] }

def emit (s : State) (o : Out) : State := { s with out := s.out ++ [o] }

def release (s : State) : State := { s with line := s.line.tail, work := .granted }

def setTimer (s : State) (k : ℕ) (stage : TimerStage) : State :=
  { s with timers := s.timers.modify k fun r => { r with stage } }

def setHandler (s : State) (k : ℕ) (stage : HandlerStage) : State :=
  { s with handlers := s.handlers.modify k fun h => { h with stage } }

/-- A task comes to its end; a timer takes itself out of `_timer`. -/
def ended (s : State) : Task → State
  | .frame => { s with process := none, abandoned := false }
  | .timer k => { s.setTimer k .over with timer := if s.timer = some k then none else s.timer }
  | .handler k => s.setHandler k .over

/-- The task that holds the lock releases it and ends. -/
def done (s : State) (t : Task) : State := (s.ended t).release

/-- A task that is cancelled while it waits leaves the line; the one whose turn it is stays. -/
def leave (s : State) (t : Task) : State :=
  { s with line := if s.line.head? = some t then s.line else s.line.erase t }

/-- A timer is cancelled and forgotten. -/
def cancelTimer (s : State) (t : ℕ) : State :=
  { s with
    timer := none
    timers := s.timers.modify t fun r => { r with cancelled := true } }.leave (.timer t)

def armTimer (s : State) : State :=
  { s with timers := s.timers ++ [⟨s.epoch, false, .sleeping⟩], timer := some s.timers.length }

/-- What follows a flush: the end of the task, but for a marker, which is pushed. -/
def flushed (s : State) (t : Task) : State :=
  match t, s.process with
  | .frame, some (.marker m stamp) =>
    { s with
      epoch := if m = .responseStart then s.epoch + 1 else s.epoch
      priming := if m = .responseStart then true else s.priming
      closed := if m = .endFrame then true else s.closed
      work := .pushing (.marker stamp) }
  | t, _ => s.done t

/-- The loop of `_flush`. -/
def flushOn (s : State) (t : Task) (epoch : ℕ) (frames : List Frame) : State :=
  if s.closed ∨ epoch ≠ s.epoch ∨ frames = [] then s.flushed t
  else { s with work := .flushing frames epoch }

def flush (s : State) (t : Task) (epoch : ℕ) : State :=
  { s with held := [], heldMs := 0, priming := false }.flushOn t epoch s.held

variable (leadMs : ℚ)

/-- An audio frame has the lock. -/
def audio (s : State) (f : Frame) : State :=
  let s := { s with process := some .taken }
  if s.closed then s.done .frame
  else if s.priming then
    let s := { s with held := s.held ++ [f], heldMs := s.heldMs + f.ms }
    if leadMs ≤ s.heldMs then
      match s.timer with
      | some t => (s.cancelTimer t).flush .frame s.epoch
      | none => s.flush .frame s.epoch
    else
      match s.timer with
      | some _ => s.done .frame
      | none => s.armTimer.done .frame
  else { s with work := .pushing (.audio f.stamp) }

/-- A marker has the lock; it lets a timer that flushes finish, and stops one that does not. -/
def marker (s : State) : State :=
  match s.timer with
  | some t => { s.cancelTimer t with work := .stopping t }
  | none => s.flush .frame s.epoch

/-- A task has the lock. -/
def locked (s : State) : Task → State
  | .frame =>
    match s.process with
    | some (.audio f) => s.audio leadMs f
    | some (.marker _ _) => s.marker
    | _ => s.done .frame
  | .timer k =>
    match s.timers[k]? with
    | some r =>
      if s.closed = false ∧ r.epoch = s.epoch then s.flush (.timer k) r.epoch else s.done (.timer k)
    | none => s
  | .handler k =>
    match s.handlers[k]? with
    | some h =>
      let s := { s with held := [], heldMs := 0 }
      if h.kind = Kind.cleanup then s.done (.handler k)
      else
        { s with
          priming := true
          closed := s.closed || h.kind = Kind.cancel
          work := .pushing (.system h.stamp) }
    | none => s

def join (s : State) (t : Task) : State := { s with line := s.line ++ [t] }

/-- A task asks for the lock, and goes on at once when it is free. -/
def request (s : State) (t : Task) : State :=
  if s.line = [] then (s.join t).locked leadMs t else s.join t

/-- A handler leaves the base class: `_epoch` is counted up. -/
def enter (s : State) (k : ℕ) (kind : Kind) : State :=
  { s with
    epoch := s.epoch + 1
    closed := s.closed || kind = Kind.cleanup
    clock := s.clock + 1
    handlers := s.handlers.modify k fun h => { h with stamp := s.clock } }

/-- It stops the timer, and then asks for the lock. -/
def begin (s : State) (k : ℕ) (kind : Kind) : State :=
  match s.timer with
  | some t => ((s.enter k kind).cancelTimer t).setHandler k (.stopping t)
  | none => ((s.enter k kind).setHandler k .inLine).request leadMs (.handler k)

def isOver (s : State) (t : ℕ) : Bool :=
  match s.timers[t]? with
  | some r => r.stage = .over
  | none => true

/-- The task that holds the lock goes on. -/
def goOn (s : State) (t : Task) : State :=
  match s.work with
  | .granted => s.locked leadMs t
  | .stopping k => if s.isOver k then s.flush t s.epoch else s
  | .flushing (f :: frames) epoch => (s.emit (.audio f.stamp)).flushOn t epoch frames
  | .flushing [] _ => s
  | .pushing o => (s.emit o).done t

/-- The task is alive, and has been cancelled. -/
def isCancelled (s : State) : Task → Bool
  | .frame => s.abandoned && s.process.isSome
  | .timer k =>
    match s.timers[k]? with
    | some r => r.cancelled && r.stage ≠ .over
    | none => false
  | .handler _ => false

/-- What is being pushed. -/
def current (s : State) : Option Out :=
  match s.work with
  | .flushing (f :: _) _ => some (.audio f.stamp)
  | .pushing o => some o
  | _ => none

/-- A cancelled task ends: out of the lock, or out of the line. -/
def kill (s : State) (t : Task) (emitted : Bool) : State :=
  if s.line.head? = some t then
    let s :=
      match s.current with
      | some o => if emitted then s.emit o else s
      | none => s
    s.done t
  else { s.ended t with line := s.line.erase t }

def resume (s : State) (t : Task) (emitted : Bool) : State :=
  if s.isCancelled t then s.kill t emitted
  else if s.line.head? = some t then s.goOn leadMs t
  else
    match t with
    | .frame => s
    | .timer k =>
      match s.timers[k]? with
      | some ⟨_, _, .sleeping⟩ => (s.setTimer k .inLine).request leadMs (.timer k)
      | _ => s
    | .handler k =>
      match s.handlers[k]? with
      | some ⟨kind, _, .base⟩ => if s.abandoned then s else s.begin leadMs k kind
      | some ⟨_, _, .stopping j⟩ =>
        if s.isOver j then (s.setHandler k .inLine).request leadMs (.handler k) else s
      | _ => s

/-- The handlers that are still in the base class. -/
def InBase (s : State) : Prop := ∃ h ∈ s.handlers, h.stage = .base

instance : DecidablePred InBase := fun s => inferInstanceAs (Decidable (∃ h ∈ s.handlers, _))

def accept (s : State) (item : Item) : State :=
  { s with
    process := some item
    clock := s.clock + 1
    arrived :=
      match item with
      | .audio f => s.arrived ++ [f.stamp]
      | _ => s.arrived }

/-- Downstream frames are processed one at a time. -/
def arrive (s : State) (item : Item) : State :=
  if s.process.isNone then (s.accept item).request leadMs .frame else s

def step (s : State) : Action → State
  | .audio ms => s.arrive leadMs (.audio ⟨s.clock, ms⟩)
  | .marker m => s.arrive leadMs (.marker m s.clock)
  | .interrupt kind =>
    let s' := { s with handlers := s.handlers ++ [⟨kind, 0, .base⟩] }
    if kind = .cleanup then s'.begin leadMs s.handlers.length kind else s'
  | .abandon =>
    if s.InBase ∧ s.process.isSome then { s with abandoned := true }.leave .frame else s
  | .resume t emitted => s.resume leadMs t emitted

end State

end Vauxr.OutputBuffer
