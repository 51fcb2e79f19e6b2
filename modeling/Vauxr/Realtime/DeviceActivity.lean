import Mathlib
import Vauxr.Lib.Run
import Vauxr.Lib.Text

/-!
What a physical device is told of a live conversation (`realtime/device_activity.py`): callbacks
move a state, and a tick under a lock sends the control that the state requires.

A step lasts from one point of suspension to the next. Whether a piece of audio is audible and what
the voice detector says of it come with the actions.
-/

namespace Vauxr.DeviceActivity

open Lib

inductive Phase
  | startup | speech | processing | output | listening
  deriving DecidableEq

inductive Control
  | audioEnd (followUp : Bool)
  | audioStart (sampleRate : ℕ)
  | speechStart
  deriving DecidableEq

inductive VadState
  | quiet | starting | speaking | stopping

/-- What the activity reads of its session; `startup` is whether the startup is complete and whether
its provider is ready. -/
structure Session where
  closed : Bool
  endedNotified : Bool
  ownsControl : Bool
  micPaused : Bool
  startup : Option (Bool × Bool)

/-- The fields of `DeviceActivity`; the time of minus infinity is `none`. -/
structure Activity where
  state : Phase
  changed : ℚ
  lastSent : Option ℚ
  lastOutput : Option ℚ
  lastInput : Option ℚ
  userSpeaking : Bool
  processing : Bool
  closed : Bool
  ready : Bool
  delegations : Finset Text
  pendingWrites : ℤ
  epoch : ℕ
  revision : ℕ

/-- What the tick that holds the lock waits for: the send of a control, with the revision and the
time at which it began, or the send of `stop`. -/
inductive Holder
  | control (message : Control) (revision : ℕ) (now : ℚ)
  | stop

/-- The activity among its surroundings: the tick that holds the lock, the calls of `stop` from
elsewhere that wait for their send, the epochs of the inputs and of the packets of output that are
waited for, and the writes that are under way, each with its epoch and whether it is meaningful.
`sent` are the controls handed to the session, `delivered` is the last one whose send succeeded. -/
structure State where
  session : Session
  clock : ℚ
  activity : Activity
  holder : Option Holder
  stops : ℕ
  inputs : List ℕ
  recvs : List ℕ
  writes : List (ℕ × Bool)
  sent : List Control
  delivered : Option Control

/-- How a send ends: `True`, `False` or a timeout or a lost connection, or another exception. -/
inductive Result
  | delivered | refused | raised

/-- An interruption's tick may find others waiting for the lock. -/
inductive Action
  | session (session : Session)
  | clock (now : ℚ)
  | ready
  | inputAudio
  | analyzed (i : ℕ) (state : VadState)
  | transcript (role delta : Text)
  | providerAudio (audible : Bool)
  | delegation (key : Text) (active : Bool)
  | tick
  | resumed (result : Result)
  | write (audible : Bool)
  | written (i : ℕ)
  | recv
  | received (i : ℕ) (audible : Bool)
  | interrupt (waits : Bool)
  | stop
  | stopped (result : Result)
  | close

def quietGap : ℚ := 1

def workLimit : ℚ := 300

def startLimit : ℚ := 15

/-- The control that a state requires. -/
def Phase.control : Phase → Control
  | .listening => .audioEnd true
  | .output => .audioStart 24000
  | _ => .speechStart

namespace Activity

def start (now : ℚ) : Activity :=
  ⟨.startup, now, none, none, none, false, false, false, false, ∅, 0, 0, 0⟩

/-- `_state` -/
def setState (a : Activity) (state : Phase) (now : ℚ) : Activity :=
  if a.state = state then a
  else { a with state, revision := a.revision + 1, changed := now, lastSent := none }

/-- More than `gap` seconds ago; a time of minus infinity is any number of them ago. -/
def ago (now : ℚ) (t : Option ℚ) (gap : ℚ) : Bool := t.all fun t => gap < now - t

def agoOrAt (now : ℚ) (t : Option ℚ) (gap : ℚ) : Bool := t.all fun t => gap ≤ now - t

/-- The part of `input_audio` behind the detector. -/
def heard (a : Activity) (now : ℚ) : VadState → Activity
  | .speaking =>
    let a := { a with lastInput := some now }
    if a.userSpeaking then a
    else { a with userSpeaking := true, processing := false }.setState .speech now
  | .quiet =>
    if a.userSpeaking then
      let a := { a with userSpeaking := false }
      if a.state = .output then a else { a with processing := true }.setState .processing now
    else a
  | _ => a

def transcript (a : Activity) (now : ℚ) (role : Text) : Activity :=
  if role = text "user" then
    let a := { a with lastInput := some now, processing := true }
    a.setState (if a.userSpeaking then .speech else .processing) now
  else { a with lastOutput := some now, processing := false }.setState .output now

/-- Output that is heard, from the provider or on its way to the device. -/
def spoken (a : Activity) (now : ℚ) : Activity :=
  { a with processing := false, lastOutput := some now }.setState .output now

def delegation (a : Activity) (now : ℚ) (key : Text) (active : Bool) : Activity :=
  if active then
    let a := { a with delegations := insert key a.delegations }
    if a.state = .output then a else a.setState .processing now
  else
    let a := { a with delegations := a.delegations.erase key }
    if a.delegations = ∅ then { a with processing := false } else a

/-- A startup that the tick gives up. -/
def overdue (a : Activity) (now : ℚ) : Bool :=
  a.state = .startup && !a.ready && startLimit ≤ now - a.changed

def leaveStartup (a : Activity) (now : ℚ) : Activity :=
  if a.state = .startup ∧ a.ready = true then a.setState .listening now else a

def leaveSpeech (a : Activity) (now : ℚ) : Activity :=
  if a.state = .speech ∧ ago now a.lastInput quietGap then
    { a with userSpeaking := false, processing := true }.setState .processing now
  else a

def leaveOutput (a : Activity) (now : ℚ) : Activity :=
  if a.state = .output ∧ a.pendingWrites = 0 ∧ agoOrAt now a.lastOutput quietGap then
    a.setState (if a.userSpeaking then .speech
      else if a.delegations ≠ ∅ ∨ a.processing = true then .processing else .listening) now
  else a

def leaveProcessing (a : Activity) (now : ℚ) : Activity :=
  if a.state = .processing ∧ a.processing = false ∧ a.delegations = ∅ then
    a.setState .listening now
  else a

/-- The moves of a tick, in the order of the source. -/
def settle (a : Activity) (now : ℚ) : Activity :=
  ((((a.leaveStartup now).leaveSpeech now).leaveOutput now).leaveProcessing now)

/-- Work that the tick gives up. -/
def stale (a : Activity) (now : ℚ) : Bool := a.state ≠ .listening && workLimit ≤ now - a.changed

/-- Whether a tick has a control to send. -/
def due (a : Activity) (now : ℚ) : Bool :=
  if a.state = .listening then a.lastSent.isNone else agoOrAt now a.lastSent 1

def interrupted (a : Activity) (now : ℚ) : Activity :=
  { a with
    epoch := a.epoch + 1, pendingWrites := 0, processing := false, userSpeaking := false,
    lastOutput := none }.setState .listening now

def close (a : Activity) : Activity := { a with closed := true, epoch := a.epoch + 1 }

end Activity

namespace State

def start (session : Session) (now : ℚ) : State :=
  ⟨session, now, .start now, none, 0, [], [], [], [], none⟩

def owns (s : State) : Bool :=
  !s.activity.closed && !s.session.closed && !s.session.endedNotified && s.session.ownsControl

def admitted (s : State) : Bool :=
  s.owns && s.session.startup.all (fun p => p.1 && p.2) && !s.session.micPaused

/-- The activity moves on, if it is admitted. -/
def update (s : State) (f : Activity → ℚ → Activity) : State :=
  if s.admitted then { s with activity := f s.activity s.clock } else s

def close (s : State) : State := { s with activity := s.activity.close }

/-- `stop` up to the point where it waits for its send. -/
def stop (s : State) (wait : State → State) : State :=
  if s.activity.closed then s
  else if s.owns then wait { s with sent := s.sent ++ [.audioEnd false] }
  else s.close

/-- The rest of `stop`. -/
def stopped (s : State) : Result → State
  | .delivered => { s with delivered := some (.audioEnd false) }.close
  | .refused => s.close
  | .raised => s

/-- The tick keeps the lock while it stops. -/
def hold (s : State) : State := { s with holder := some .stop }

/-- A tick that finds the lock free, up to the point where it waits for a send. -/
def tick (s : State) : State :=
  if s.holder.isSome || !s.admitted then s
  else if s.activity.overdue s.clock then s.stop hold
  else
    let a := s.activity.settle s.clock
    let s := { s with activity := a }
    if a.stale s.clock then s.stop hold
    else if a.due s.clock then
      { s with
        sent := s.sent ++ [a.state.control]
        holder := some (.control a.state.control a.revision s.clock) }
    else s

/-- The tick that holds the lock, behind the send that it waits for. -/
def resumed (s : State) (result : Result) : State :=
  match s.holder with
  | none => s
  | some .stop => { s with holder := none }.stopped result
  | some (.control message revision now) =>
    let s := { s with holder := none }
    match result with
    | .delivered =>
      let s := { s with delivered := some message }
      if revision = s.activity.revision ∧ s.admitted then
        { s with activity := { s.activity with lastSent := some now } }
      else s
    | .refused => s.stop hold
    | .raised => s

/-- `tracked`, up to the write. -/
def write (s : State) (audible : Bool) : State :=
  let meaningful := s.admitted && audible
  { s with
    writes := s.writes ++ [(s.activity.epoch, meaningful)]
    activity := { s.activity with
      pendingWrites := s.activity.pendingWrites + if meaningful then 1 else 0 } }

/-- `tracked`, behind a write that ended in any way. -/
def written (s : State) (i : ℕ) : State :=
  match s.writes[i]? with
  | none => s
  | some (epoch, meaningful) =>
    { s with
      writes := s.writes.eraseIdx i
      activity := { s.activity with
        pendingWrites := s.activity.pendingWrites -
          if meaningful && epoch = s.activity.epoch then 1 else 0 } }

/-- The detector has analyzed an input. -/
def analyzed (s : State) (i : ℕ) (state : VadState) : State :=
  match s.inputs[i]? with
  | none => s
  | some epoch =>
    let s := { s with inputs := s.inputs.eraseIdx i }
    if epoch = s.activity.epoch then s.update fun a now => a.heard now state else s

/-- The track has given a packet out. -/
def received (s : State) (i : ℕ) (audible : Bool) : State :=
  match s.recvs[i]? with
  | none => s
  | some epoch =>
    let s := { s with recvs := s.recvs.eraseIdx i }
    if epoch = s.activity.epoch ∧ audible then s.update .spoken else s

def interrupt (s : State) (waits : Bool) : State :=
  if s.admitted then
    let s := { s with activity := s.activity.interrupted s.clock }
    if waits then s else s.tick
  else s

def step (s : State) : Action → State
  | .session session => { s with session }
  | .clock now => { s with clock := now }
  | .ready => { s with activity := { s.activity with ready := true } }
  | .inputAudio => if s.admitted then { s with inputs := s.inputs ++ [s.activity.epoch] } else s
  | .analyzed i state => s.analyzed i state
  | .transcript role delta =>
    if delta.strip = [] then s else s.update fun a now => a.transcript now role
  | .providerAudio audible => if audible then s.update .spoken else s
  | .delegation key active => s.update fun a now => a.delegation now key active
  | .tick => s.tick
  | .resumed result => s.resumed result
  | .write audible => s.write audible
  | .written i => s.written i
  | .recv => { s with recvs := s.recvs ++ [s.activity.epoch] }
  | .received i audible => s.received i audible
  | .interrupt waits => s.interrupt waits
  | .stop => s.stop fun s => { s with stops := s.stops + 1 }
  | .stopped result =>
    if s.stops = 0 then s else { s with stops := s.stops - 1 }.stopped result
  | .close => s.close

/-- The meaningful writes of the current epoch that are under way. -/
def inFlight (s : State) : ℕ :=
  s.writes.countP fun w => w.2 && w.1 = s.activity.epoch

end State

/-! ### What moves -/

namespace Activity

/-- A callback leaves the state, or moves it: then there is a new revision, and nothing has been
sent of it. -/
structure Moves (a a' : Activity) : Prop where
  voice : (a'.state = a.state ∧ a'.revision = a.revision ∧ a'.lastSent = a.lastSent) ∨
    (a.revision < a'.revision ∧ a'.lastSent = none)
  closed : a'.closed = a.closed

/-- A callback that is not an interruption leaves the writes alone. -/
structure Keeps (a a' : Activity) : Prop extends Moves a a' where
  epoch : a'.epoch = a.epoch
  pendingWrites : a'.pendingWrites = a.pendingWrites

variable {a a' a'' : Activity}

lemma Moves.trans (h : Moves a a') (h' : Moves a' a'') : Moves a a'' := by
  refine ⟨?_, h'.closed.trans h.closed⟩
  rcases h.voice with ⟨hs, hr, hl⟩ | ⟨hr, hl⟩
  · rcases h'.voice with ⟨hs', hr', hl'⟩ | ⟨hr', hl'⟩
    · exact .inl ⟨hs'.trans hs, hr'.trans hr, hl'.trans hl⟩
    · exact .inr ⟨hr ▸ hr', hl'⟩
  · rcases h'.voice with ⟨-, hr', hl'⟩ | ⟨hr', hl'⟩
    · exact .inr ⟨hr'.symm ▸ hr, hl'.trans hl⟩
    · exact .inr ⟨hr.trans hr', hl'⟩

lemma Keeps.trans (h : Keeps a a') (h' : Keeps a' a'') : Keeps a a'' :=
  ⟨h.toMoves.trans h'.toMoves, h'.epoch.trans h.epoch, h'.pendingWrites.trans h.pendingWrites⟩

lemma Keeps.refl (a : Activity) : Keeps a a := ⟨⟨.inl ⟨rfl, rfl, rfl⟩, rfl⟩, rfl, rfl⟩

lemma setState_keeps (a : Activity) (state : Phase) (now : ℚ) : Keeps a (a.setState state now) := by
  unfold setState
  split
  · exact .refl a
  · exact ⟨⟨.inr ⟨Nat.lt_succ_self _, rfl⟩, rfl⟩, rfl, rfl⟩

/-- Setting the state after other fields. -/
lemma Keeps.setState (h : Keeps a a') (state : Phase) (now : ℚ) : Keeps a (a'.setState state now) :=
  h.trans (setState_keeps a' state now)

lemma heard_keeps (a : Activity) (now : ℚ) (state : VadState) : Keeps a (a.heard now state) := by
  cases state with
  | speaking =>
    simp only [heard]
    split
    · exact ⟨⟨.inl ⟨rfl, rfl, rfl⟩, rfl⟩, rfl, rfl⟩
    · apply Keeps.setState
      exact ⟨⟨.inl ⟨rfl, rfl, rfl⟩, rfl⟩, rfl, rfl⟩
  | quiet =>
    simp only [heard]
    split
    · split
      · exact ⟨⟨.inl ⟨rfl, rfl, rfl⟩, rfl⟩, rfl, rfl⟩
      · apply Keeps.setState
        exact ⟨⟨.inl ⟨rfl, rfl, rfl⟩, rfl⟩, rfl, rfl⟩
    · exact .refl a
  | starting => exact .refl a
  | stopping => exact .refl a

lemma transcript_keeps (a : Activity) (now : ℚ) (role : Text) : Keeps a (a.transcript now role) := by
  unfold transcript
  split
  · apply Keeps.setState
    exact ⟨⟨.inl ⟨rfl, rfl, rfl⟩, rfl⟩, rfl, rfl⟩
  · apply Keeps.setState
    exact ⟨⟨.inl ⟨rfl, rfl, rfl⟩, rfl⟩, rfl, rfl⟩

lemma spoken_keeps (a : Activity) (now : ℚ) : Keeps a (a.spoken now) := by
  apply Keeps.setState
  exact ⟨⟨.inl ⟨rfl, rfl, rfl⟩, rfl⟩, rfl, rfl⟩

lemma delegation_keeps (a : Activity) (now : ℚ) (key : Text) (active : Bool) :
    Keeps a (a.delegation now key active) := by
  unfold delegation
  split
  · dsimp only
    split
    · exact ⟨⟨.inl ⟨rfl, rfl, rfl⟩, rfl⟩, rfl, rfl⟩
    · apply Keeps.setState
      exact ⟨⟨.inl ⟨rfl, rfl, rfl⟩, rfl⟩, rfl, rfl⟩
  · dsimp only
    split
    · exact ⟨⟨.inl ⟨rfl, rfl, rfl⟩, rfl⟩, rfl, rfl⟩
    · exact ⟨⟨.inl ⟨rfl, rfl, rfl⟩, rfl⟩, rfl, rfl⟩

lemma settle_keeps (a : Activity) (now : ℚ) : Keeps a (a.settle now) := by
  have h₁ : Keeps a (a.leaveStartup now) := by
    unfold leaveStartup
    split
    · exact setState_keeps a _ _
    · exact .refl a
  have h₂ : ∀ a : Activity, Keeps a (a.leaveSpeech now) := by
    intro a
    unfold leaveSpeech
    split
    · apply Keeps.setState
      exact ⟨⟨.inl ⟨rfl, rfl, rfl⟩, rfl⟩, rfl, rfl⟩
    · exact .refl a
  have h₃ : ∀ a : Activity, Keeps a (a.leaveOutput now) := by
    intro a
    unfold leaveOutput
    split
    · exact setState_keeps a _ _
    · exact .refl a
  have h₄ : ∀ a : Activity, Keeps a (a.leaveProcessing now) := by
    intro a
    unfold leaveProcessing
    split
    · exact setState_keeps a _ _
    · exact .refl a
  exact ((h₁.trans (h₂ _)).trans (h₃ _)).trans (h₄ _)

lemma interrupted_moves (a : Activity) (now : ℚ) : Moves a (a.interrupted now) := by
  refine Moves.trans ?_ (setState_keeps _ _ now).toMoves
  exact ⟨.inl ⟨rfl, rfl, rfl⟩, rfl⟩

end Activity

namespace State

variable {s : State}

lemma owns_open (h : s.owns = true) : s.activity.closed = false := by
  simp only [owns, Bool.and_eq_true, Bool.not_eq_true'] at h
  exact h.1.1.1

lemma admitted_owns (h : s.admitted = true) : s.owns = true := by
  simp only [admitted, Bool.and_eq_true] at h
  exact h.1.1

/-- What a tick does: nothing, or it moves the activity and has nothing to send, or sends the
control of the state that it moves to, or begins to stop. -/
lemma tick_cases (s : State) : (s.holder ≠ none ∨ s.admitted = false) ∧ s.tick = s ∨
    s.holder = none ∧ s.admitted = true ∧ ∃ a', Activity.Keeps s.activity a' ∧
      (a'.lastSent ≠ none ∧ s.tick = { s with activity := a' } ∨
        s.tick = { s with
          activity := a', sent := s.sent ++ [.audioEnd false], holder := some .stop } ∨
        s.tick = { s with
          activity := a'
          sent := s.sent ++ [a'.state.control]
          holder := some (.control a'.state.control a'.revision s.clock) }) := by
  unfold tick
  split
  next hbusy =>
    refine .inl ⟨?_, rfl⟩
    simpa only [Bool.or_eq_true, Option.isSome_iff_ne_none, ne_eq, Bool.not_eq_true'] using hbusy
  next hfree =>
    simp only [Bool.or_eq_true, Option.isSome_iff_ne_none, ne_eq, Bool.not_eq_true', not_or,
      not_not, Bool.not_eq_false] at hfree
    obtain ⟨hholder, hadm⟩ := hfree
    have howns := admitted_owns hadm
    have hopen := owns_open howns
    refine .inr ⟨hholder, hadm, ?_⟩
    split
    next =>
      refine ⟨s.activity, .refl _, .inr (.inl ?_)⟩
      rw [stop, if_neg (by simp [hopen]), if_pos howns, hold]
    next =>
      have hkeeps := s.activity.settle_keeps s.clock
      refine ⟨s.activity.settle s.clock, hkeeps, ?_⟩
      generalize s.activity.settle s.clock = a' at hkeeps
      dsimp only
      split
      next =>
        have hopen' : a'.closed = false := hkeeps.closed.trans hopen
        have howns' : ({ s with activity := a' } : State).owns = true := by
          simp only [owns, hopen', hopen] at howns ⊢
          exact howns
        refine .inr (.inl ?_)
        rw [stop, if_neg (by simp [hopen']), if_pos howns', hold]
      next =>
        split
        next => exact .inr (.inr rfl)
        next hdue =>
          refine .inl ⟨fun hnone => hdue ?_, rfl⟩
          unfold Activity.due
          rw [hnone]
          split
          · rfl
          · rfl

/-! ### The invariant -/

/-- The send that the tick waits for is not the send of a control. -/
def NotControl (s : State) : Prop := ∀ c r t, s.holder ≠ some (.control c r t)

/-- What counts as told to the device is what the state requires, and the writes of the epoch are
counted. -/
structure Inv (s : State) : Prop where
  told : s.activity.closed = false → s.activity.lastSent ≠ none →
    s.delivered = some s.activity.state.control
  holder : ∀ c r t, s.holder = some (.control c r t) →
    r ≤ s.activity.revision ∧ (r = s.activity.revision → c = s.activity.state.control) ∧
      (s.activity.lastSent ≠ none → r = s.activity.revision)
  epochs : ∀ w ∈ s.writes, w.1 ≤ s.activity.epoch
  passed : s.activity.closed = true → ∀ w ∈ s.writes, w.2 = true → w.1 < s.activity.epoch
  count : s.activity.closed = false → s.activity.pendingWrites = s.inFlight
  nonneg : 0 ≤ s.activity.pendingWrites

lemma inv_start (session : Session) (now : ℚ) : (start session now).Inv where
  told _ h := absurd rfl h
  holder _ _ _ h := nomatch h
  epochs _ h := nomatch h
  passed _ _ h := nomatch h
  count _ := rfl
  nonneg := le_rfl

/-- The send that the tick waits for, behind a move. -/
lemma Inv.holder_moves (h : s.Inv) {s' : State} (hm : s.activity.Moves s'.activity)
    (hh : s'.holder = s.holder ∨ s'.NotControl) (c : Control) (r : ℕ) (t : ℚ)
    (hc : s'.holder = some (.control c r t)) :
    r ≤ s'.activity.revision ∧ (r = s'.activity.revision → c = s'.activity.state.control) ∧
      (s'.activity.lastSent ≠ none → r = s'.activity.revision) := by
  rcases hh with hh | hh
  · obtain ⟨hle, hcontrol, hsent⟩ := h.holder c r t (hh ▸ hc)
    rcases hm.voice with ⟨hs, hr, hl⟩ | ⟨hr, hl⟩
    · rw [hs, hr, hl]
      exact ⟨hle, hcontrol, hsent⟩
    · exact ⟨by omega, fun he => by omega, fun hne => absurd hl hne⟩
  · exact absurd hc (hh c r t)

/-- What a callback keeps. -/
lemma Inv.keeps (h : s.Inv) {s' : State} (hk : s.activity.Keeps s'.activity)
    (hw : s'.writes = s.writes) (hd : s'.delivered = s.delivered)
    (hh : s'.holder = s.holder ∨ s'.NotControl) : s'.Inv where
  told hopen hsent := by
    rcases hk.voice with ⟨hs, -, hl⟩ | ⟨-, hl⟩
    · rw [hd, hs]
      exact h.told (hk.closed ▸ hopen) (hl ▸ hsent)
    · exact absurd hl hsent
  holder := h.holder_moves hk.toMoves hh
  epochs := by
    rw [hw, hk.epoch]
    exact h.epochs
  passed := by
    rw [hw, hk.epoch, hk.closed]
    exact h.passed
  count := by
    rw [hk.closed, hk.pendingWrites, inFlight, hw, hk.epoch]
    exact h.count
  nonneg := hk.pendingWrites ▸ h.nonneg

/-- What closing keeps, whatever was told before. -/
lemma Inv.closes (h : s.Inv) {s' : State} (ha : s'.activity = s.activity.close)
    (hw : s'.writes = s.writes) (hh : s'.holder = s.holder ∨ s'.NotControl) : s'.Inv where
  told hopen := by
    rw [ha] at hopen
    cases hopen
  holder c r t hc := by
    rcases hh with hh | hh
    · rw [ha]
      exact h.holder c r t (hh ▸ hc)
    · exact absurd hc (hh c r t)
  epochs w hmem := by
    rw [ha]
    exact Nat.le_succ_of_le (h.epochs w (hw ▸ hmem))
  passed _ w hmem _ := by
    rw [ha]
    exact Nat.lt_succ_of_le (h.epochs w (hw ▸ hmem))
  count hopen := by
    rw [ha] at hopen
    cases hopen
  nonneg := by
    rw [ha]
    exact h.nonneg

lemma Inv.update (h : s.Inv) {f : Activity → ℚ → Activity}
    (hf : ∀ a now, Activity.Keeps a (f a now)) : (s.update f).Inv := by
  unfold State.update
  split
  · exact h.keeps (hf _ _) rfl rfl (.inl rfl)
  · exact h

lemma Inv.close (h : s.Inv) : s.close.Inv := h.closes rfl rfl (.inl rfl)

lemma Inv.stopped (h : s.Inv) (result : Result) : (s.stopped result).Inv := by
  cases result with
  | delivered => exact h.closes rfl rfl (.inl rfl)
  | refused => exact h.close
  | raised => exact h

lemma Inv.stop (h : s.Inv) {wait : State → State}
    (hwait : ∀ s : State, s.Inv → (wait s).Inv) : (s.stop wait).Inv := by
  unfold State.stop
  split
  · exact h
  · split
    · exact hwait _ (h.keeps (.refl _) rfl rfl (.inl rfl))
    · exact h.close

lemma Inv.hold (h : s.Inv) : s.hold.Inv :=
  h.keeps (.refl _) rfl rfl (.inr fun _ _ _ => by simp [State.hold])

lemma Inv.tick (h : s.Inv) : s.tick.Inv := by
  rcases s.tick_cases with ⟨-, hsame⟩ | ⟨-, -, a', hk, ⟨-, htick⟩ | htick | htick⟩
  · rw [hsame]
    exact h
  · rw [htick]
    exact h.keeps hk rfl rfl (.inl rfl)
  · rw [htick]
    exact h.keeps hk rfl rfl (.inr fun _ _ _ => by simp)
  · have h' : ({ s with activity := a' } : State).Inv := h.keeps hk rfl rfl (.inl rfl)
    rw [htick]
    refine ⟨h'.told, fun c r t hc => ?_, h'.epochs, h'.passed, h'.count, h'.nonneg⟩
    cases hc
    exact ⟨le_rfl, fun _ => rfl, fun _ => rfl⟩

lemma Inv.resumed (h : s.Inv) (result : Result) : (s.resumed result).Inv := by
  have hfree : ({ s with holder := none } : State).Inv :=
    h.keeps (.refl _) rfl rfl (.inr fun _ _ _ => by simp)
  unfold State.resumed
  split
  next => exact h
  next => exact hfree.stopped result
  next message revision now hholder =>
    obtain ⟨hle, hcontrol, hsent⟩ := h.holder _ _ _ hholder
    cases result with
    | delivered =>
      dsimp only
      split
      next hcond =>
        refine ⟨fun _ _ => ?_, fun c r t hc => (nomatch hc), h.epochs, h.passed, h.count, h.nonneg⟩
        exact congrArg some (hcontrol hcond.1)
      next =>
        refine ⟨fun _ hne => ?_, fun c r t hc => (nomatch hc), h.epochs, h.passed, h.count,
          h.nonneg⟩
        exact congrArg some (hcontrol (hsent hne))
    | refused => exact hfree.stop fun s hs => hs.hold
    | raised => exact hfree

lemma Inv.write (h : s.Inv) (audible : Bool) : (s.write audible).Inv where
  told := h.told
  holder := h.holder
  epochs w hmem := by
    rcases List.mem_append.mp hmem with hmem | hmem
    · exact h.epochs w hmem
    · rw [List.mem_singleton] at hmem
      exact hmem ▸ le_rfl
  passed hclosed w hmem hw := by
    rcases List.mem_append.mp hmem with hmem | hmem
    · exact h.passed hclosed w hmem hw
    · -- a closed activity takes no write for meaningful
      rw [List.mem_singleton] at hmem
      rw [hmem, Bool.and_eq_true] at hw
      have hopen := owns_open (admitted_owns hw.1)
      exact absurd (hopen.symm.trans hclosed) (by decide)
  count hopen := by
    have hin : (s.write audible).inFlight =
        s.inFlight + if s.admitted && audible then 1 else 0 := by
      change (s.writes ++ [(s.activity.epoch, s.admitted && audible)]).countP _ = _
      rw [List.countP_append, List.countP_singleton]
      refine congrArg₂ _ rfl ?_
      cases s.admitted && audible
      · rfl
      · exact if_pos (by simp [State.write])
    have hpending := h.count hopen
    rw [hin, State.write, hpending]
    split
    · rfl
    · rfl
  nonneg := by
    have hnonneg := h.nonneg
    simp only [State.write]
    split
    · omega
    · omega

lemma Inv.written (h : s.Inv) (i : ℕ) : (s.written i).Inv := by
  unfold State.written
  split
  next => exact h
  next epoch meaningful hi =>
    have hlt : i < s.writes.length := (List.getElem?_eq_some_iff.mp hi).1
    have hperm : s.writes.Perm ((epoch, meaningful) :: s.writes.eraseIdx i) := by
      have hget : s.writes[i] = (epoch, meaningful) := (List.getElem?_eq_some_iff.mp hi).2
      exact hget ▸ (List.getElem_cons_eraseIdx_perm hlt).symm
    have hmem : ∀ w ∈ s.writes.eraseIdx i, w ∈ s.writes := fun w hw =>
      hperm.mem_iff.mpr (List.mem_cons_of_mem _ hw)
    -- the write that ends is one of those counted, if it is of the epoch
    have hcount : s.inFlight = (s.writes.eraseIdx i).countP
        (fun w => w.2 && w.1 = s.activity.epoch) +
          if meaningful && epoch = s.activity.epoch then 1 else 0 := by
      rw [inFlight, hperm.countP_eq, List.countP_cons]
    refine ⟨h.told, h.holder, fun w hw => h.epochs w (hmem w hw),
      fun hclosed w hw => h.passed hclosed w (hmem w hw), fun hopen => ?_, ?_⟩
    · have hpending := h.count hopen
      simp only [inFlight] at hcount ⊢
      rw [hpending, inFlight, hcount]
      split
      · push_cast
        ring
      · simp
    · have hnonneg := h.nonneg
      dsimp only
      split
      next hcur =>
        rw [Bool.and_eq_true, decide_eq_true_eq] at hcur
        cases hclosed : s.activity.closed with
        | false =>
          have hpending := h.count hclosed
          rw [hcount, if_pos (by simp [hcur])] at hpending
          push_cast at hpending
          omega
        | true =>
          have hin : (epoch, meaningful) ∈ s.writes := hperm.mem_iff.mpr List.mem_cons_self
          have hpassed := h.passed hclosed _ hin hcur.1
          exact absurd hcur.2 hpassed.ne
      next => omega

lemma Inv.interrupt (h : s.Inv) (waits : Bool) : (s.interrupt waits).Inv := by
  unfold State.interrupt
  split
  next =>
    have hmoves := s.activity.interrupted_moves s.clock
    have hepoch : (s.activity.interrupted s.clock).epoch = s.activity.epoch + 1 :=
      (Activity.setState_keeps _ _ _).epoch
    have hpending : (s.activity.interrupted s.clock).pendingWrites = 0 :=
      (Activity.setState_keeps _ _ _).pendingWrites
    have hinv : ({ s with activity := s.activity.interrupted s.clock } : State).Inv := by
      refine ⟨fun hopen hsent => ?_, h.holder_moves hmoves (.inl rfl), fun w hw => ?_,
        fun _ w hw _ => ?_, fun _ => ?_, ?_⟩
      · rcases hmoves.voice with ⟨hs, -, hl⟩ | ⟨-, hl⟩
        · dsimp only
          rw [hs]
          exact h.told (hmoves.closed ▸ hopen) (hl ▸ hsent)
        · exact absurd hl hsent
      · dsimp only
        rw [hepoch]
        exact Nat.le_succ_of_le (h.epochs w hw)
      · dsimp only
        rw [hepoch]
        exact Nat.lt_succ_of_le (h.epochs w hw)
      · -- every write under way is of an earlier epoch
        simp only [inFlight]
        rw [hpending, hepoch]
        have hnone : s.writes.countP (fun w => w.2 && w.1 = s.activity.epoch + 1) = 0 := by
          rw [List.countP_eq_zero]
          intro w hw hcond
          rw [Bool.and_eq_true, decide_eq_true_eq] at hcond
          have hle := h.epochs w hw
          omega
        rw [hnone]
        rfl
      · dsimp only
        rw [hpending]
    dsimp only
    split
    · exact hinv
    · exact hinv.tick
  next => exact h

lemma Inv.step (h : s.Inv) (act : Action) : (s.step act).Inv := by
  cases act with
  | session session => exact h.keeps (.refl _) rfl rfl (.inl rfl)
  | clock now => exact h.keeps (.refl _) rfl rfl (.inl rfl)
  | ready => exact h.keeps ⟨⟨.inl ⟨rfl, rfl, rfl⟩, rfl⟩, rfl, rfl⟩ rfl rfl (.inl rfl)
  | inputAudio =>
    simp only [State.step]
    split
    · exact h.keeps (.refl _) rfl rfl (.inl rfl)
    · exact h
  | analyzed i state =>
    simp only [State.step, State.analyzed]
    split
    · exact h
    · have h' := h
      split
      · refine Inv.update ?_ fun a now => a.heard_keeps now state
        exact h.keeps (.refl _) rfl rfl (.inl rfl)
      · exact h.keeps (.refl _) rfl rfl (.inl rfl)
  | transcript role delta =>
    simp only [State.step]
    split
    · exact h
    · exact h.update fun a now => a.transcript_keeps now role
  | providerAudio audible =>
    simp only [State.step]
    split
    · exact h.update Activity.spoken_keeps
    · exact h
  | delegation key active => exact h.update fun a now => a.delegation_keeps now key active
  | tick => exact h.tick
  | resumed result => exact h.resumed result
  | write audible => exact h.write audible
  | written i => exact h.written i
  | recv => exact h.keeps (.refl _) rfl rfl (.inl rfl)
  | received i audible =>
    simp only [State.step, State.received]
    split
    · exact h
    · split
      · refine Inv.update ?_ Activity.spoken_keeps
        exact h.keeps (.refl _) rfl rfl (.inl rfl)
      · exact h.keeps (.refl _) rfl rfl (.inl rfl)
  | interrupt waits => exact h.interrupt waits
  | stop =>
    have hwait : ∀ s : State, s.Inv → ({ s with stops := s.stops + 1 } : State).Inv :=
      fun s hs => hs.keeps (.refl _) rfl rfl (.inl rfl)
    exact h.stop hwait
  | stopped result =>
    simp only [State.step]
    split
    · exact h
    · refine Inv.stopped ?_ result
      exact h.keeps (.refl _) rfl rfl (.inl rfl)
  | close => exact h.close

/-! ### What is sent, and when -/

/-- A step sends one control at most, and only while the activity owns the device. -/
lemma step_sent (s : State) (act : Action) : (s.step act).sent = s.sent ∨
    s.owns = true ∧ ∃ c, (s.step act).sent = s.sent ++ [c] := by
  have hupdate : ∀ (s : State) f, (s.update f).sent = s.sent := by
    intro s f
    unfold update
    split
    · rfl
    · rfl
  have hstopped : ∀ (s : State) result, (s.stopped result).sent = s.sent := by
    intro s result
    cases result with
    | delivered => rfl
    | refused => rfl
    | raised => rfl
  have hstop : ∀ (s : State) wait, (∀ s : State, (wait s).sent = s.sent) →
      (s.stop wait).sent = s.sent ∨ s.owns = true ∧ ∃ c, (s.stop wait).sent = s.sent ++ [c] := by
    intro s wait hwait
    unfold stop
    split
    · exact .inl rfl
    · split
      next howns => exact .inr ⟨howns, _, hwait _⟩
      next => exact .inl rfl
  have htick : ∀ s : State, s.tick.sent = s.sent ∨
      s.owns = true ∧ ∃ c, s.tick.sent = s.sent ++ [c] := by
    intro s
    rcases s.tick_cases with ⟨-, hsame⟩ | ⟨-, hadm, a', -, ⟨-, h⟩ | h | h⟩
    · exact .inl (by rw [hsame])
    · exact .inl (by rw [h])
    · exact .inr ⟨admitted_owns hadm, _, by rw [h]⟩
    · exact .inr ⟨admitted_owns hadm, _, by rw [h]⟩
  cases act with
  | session session => exact .inl rfl
  | clock now => exact .inl rfl
  | ready => exact .inl rfl
  | inputAudio =>
    simp only [step]
    split
    · exact .inl rfl
    · exact .inl rfl
  | analyzed i state =>
    simp only [step, analyzed]
    split
    · exact .inl rfl
    · split
      · exact .inl (hupdate _ _)
      · exact .inl rfl
  | transcript role delta =>
    simp only [step]
    split
    · exact .inl rfl
    · exact .inl (hupdate _ _)
  | providerAudio audible =>
    simp only [step]
    split
    · exact .inl (hupdate _ _)
    · exact .inl rfl
  | delegation key active => exact .inl (hupdate _ _)
  | tick => exact htick s
  | resumed result =>
    simp only [step]
    unfold resumed
    split
    · exact .inl rfl
    · exact .inl (hstopped _ _)
    · cases result with
      | delivered =>
        dsimp only
        split
        · exact .inl rfl
        · exact .inl rfl
      | refused => exact hstop { s with holder := none } hold fun _ => rfl
      | raised => exact .inl rfl
  | write audible => exact .inl rfl
  | written i =>
    simp only [step]
    unfold written
    split
    · exact .inl rfl
    · exact .inl rfl
  | recv => exact .inl rfl
  | received i audible =>
    simp only [step, received]
    split
    · exact .inl rfl
    · split
      · exact .inl (hupdate _ _)
      · exact .inl rfl
  | interrupt waits =>
    simp only [step, interrupt]
    split
    next hadm =>
      split
      · exact .inl rfl
      · rcases htick { s with activity := s.activity.interrupted s.clock } with h | ⟨-, h⟩
        · exact .inl h
        · exact .inr ⟨admitted_owns hadm, h⟩
    next => exact .inl rfl
  | stop => exact hstop s _ fun _ => rfl
  | stopped result =>
    simp only [step]
    split
    · exact .inl rfl
    · exact .inl (hstopped _ _)
  | close => exact .inl rfl

/-- A closed activity stays closed, and neither its count of writes nor what counts as told moves
on. -/
lemma Inv.step_closed (h : s.Inv) (hclosed : s.activity.closed = true) (act : Action) :
    (s.step act).activity.closed = true ∧
      (s.step act).activity.pendingWrites = s.activity.pendingWrites ∧
      (s.step act).activity.lastSent = s.activity.lastSent := by
  have howns : ∀ s : State, s.activity.closed = true → s.admitted = false := by
    intro s hclosed
    by_contra hadm
    rw [Bool.not_eq_false] at hadm
    exact absurd ((owns_open (admitted_owns hadm)).symm.trans hclosed) (by decide)
  have hadm : s.admitted = false := howns s hclosed
  have hupdate : ∀ (s : State) f, s.activity.closed = true → s.update f = s := by
    intro s f hclosed
    unfold State.update
    rw [howns s hclosed]
    rfl
  have hstop : ∀ (s : State) wait, s.activity.closed = true → s.stop wait = s := by
    intro s wait hclosed
    unfold State.stop
    rw [if_pos hclosed]
  have hstopped : ∀ (s : State) result, s.activity.closed = true →
      (s.stopped result).activity.closed = true ∧
        (s.stopped result).activity.pendingWrites = s.activity.pendingWrites ∧
        (s.stopped result).activity.lastSent = s.activity.lastSent := by
    intro s result hclosed
    cases result with
    | delivered => exact ⟨rfl, rfl, rfl⟩
    | refused => exact ⟨rfl, rfl, rfl⟩
    | raised => exact ⟨hclosed, rfl, rfl⟩
  cases act with
  | session session => exact ⟨hclosed, rfl, rfl⟩
  | clock now => exact ⟨hclosed, rfl, rfl⟩
  | ready => exact ⟨hclosed, rfl, rfl⟩
  | inputAudio =>
    simp only [State.step, hadm, Bool.false_eq_true, if_false]
    exact ⟨hclosed, trivial, trivial⟩
  | analyzed i state =>
    simp only [State.step, analyzed]
    split
    · exact ⟨hclosed, rfl, rfl⟩
    · split
      · rw [hupdate]
        · exact ⟨hclosed, rfl, rfl⟩
        · exact hclosed
      · exact ⟨hclosed, rfl, rfl⟩
  | transcript role delta =>
    simp only [State.step]
    split
    · exact ⟨hclosed, rfl, rfl⟩
    · rw [hupdate s _ hclosed]
      exact ⟨hclosed, rfl, rfl⟩
  | providerAudio audible =>
    simp only [State.step]
    split
    · rw [hupdate s _ hclosed]
      exact ⟨hclosed, rfl, rfl⟩
    · exact ⟨hclosed, rfl, rfl⟩
  | delegation key active =>
    simp only [State.step]
    rw [hupdate s _ hclosed]
    exact ⟨hclosed, rfl, rfl⟩
  | tick =>
    simp only [State.step, State.tick, hadm, Bool.not_false, Bool.or_true, if_true]
    exact ⟨hclosed, trivial, trivial⟩
  | resumed result =>
    simp only [State.step]
    unfold State.resumed
    split
    · exact ⟨hclosed, rfl, rfl⟩
    · exact hstopped _ _ hclosed
    · cases result with
      | delivered =>
        dsimp only
        split
        next hcond =>
          have hfalse := hcond.2.symm.trans (howns _ hclosed)
          cases hfalse
        next => exact ⟨hclosed, rfl, rfl⟩
      | refused =>
        dsimp only
        rw [hstop]
        · exact ⟨hclosed, rfl, rfl⟩
        · exact hclosed
      | raised => exact ⟨hclosed, rfl, rfl⟩
  | write audible =>
    refine ⟨hclosed, ?_, rfl⟩
    simp only [State.step, State.write, hadm, Bool.false_and, Bool.false_eq_true, if_false,
      add_zero]
  | written i =>
    simp only [State.step]
    unfold State.written
    split
    next => exact ⟨hclosed, rfl, rfl⟩
    next epoch meaningful hi =>
      refine ⟨hclosed, ?_, rfl⟩
      have hmem : (epoch, meaningful) ∈ s.writes := List.mem_of_getElem? hi
      dsimp only
      rw [if_neg, sub_zero]
      intro hcond
      rw [Bool.and_eq_true, decide_eq_true_eq] at hcond
      exact (h.passed hclosed _ hmem hcond.1).ne hcond.2
  | recv => exact ⟨hclosed, rfl, rfl⟩
  | received i audible =>
    simp only [State.step, received]
    split
    · exact ⟨hclosed, rfl, rfl⟩
    · split
      · rw [hupdate]
        · exact ⟨hclosed, rfl, rfl⟩
        · exact hclosed
      · exact ⟨hclosed, rfl, rfl⟩
  | interrupt waits =>
    simp only [State.step, State.interrupt, hadm, Bool.false_eq_true, if_false]
    exact ⟨hclosed, trivial, trivial⟩
  | stop =>
    simp only [State.step]
    rw [hstop s _ hclosed]
    exact ⟨hclosed, rfl, rfl⟩
  | stopped result =>
    simp only [State.step]
    split
    · exact ⟨hclosed, rfl, rfl⟩
    · exact hstopped _ _ hclosed
  | close => exact ⟨rfl, rfl, rfl⟩

/-- An admitted tick that has the lock announces a state that nothing was sent of, or begins to
stop. -/
lemma tick_announces (hholder : s.holder = none) (hadm : s.admitted = true)
    (hsent : s.activity.lastSent = none) :
    (s.tick.sent = s.sent ++ [s.tick.activity.state.control] ∧
      s.tick.holder =
        some (.control s.tick.activity.state.control s.tick.activity.revision s.clock)) ∨
    (s.tick.sent = s.sent ++ [.audioEnd false] ∧ s.tick.holder = some .stop) := by
  rcases s.tick_cases with ⟨hbusy, -⟩ | ⟨-, -, a', hk, ⟨hne, -⟩ | h | h⟩
  · rcases hbusy with hbusy | hbusy
    · exact absurd hholder hbusy
    · exact absurd (hbusy.symm.trans hadm) (by decide)
  · rcases hk.voice with ⟨-, -, hl⟩ | ⟨-, hl⟩
    · exact absurd (hl.trans hsent) hne
    · exact absurd hl hne
  · rw [h]
    exact .inr ⟨rfl, rfl⟩
  · rw [h]
    exact .inl ⟨rfl, rfl⟩

end State

/-! ### Runs -/

section Runs

variable (session : Session) (now : ℚ) (acts : ℕ → Action)

/-- The activity after the first `n` actions. -/
abbrev activity (n : ℕ) : State := run State.step (State.start session now) acts n

lemma inv_activity (n : ℕ) : (activity session now acts n).Inv :=
  run_invariant (I := fun _ => State.Inv) (State.inv_start session now) (fun _ _ h => h.step _) n

/-- **What the device was told is what it should be told.** Whatever the order of the callbacks, the
ticks, the sends and the writes: what counts as told is what the state requires, and a state that
moved during a send does not count as told; an admitted tick announces such a state, or stops; a
control is sent only by an owner, none behind `close`; and until then the meaningful writes of the
epoch under way are counted, while `close` leaves their number as it is. -/
theorem activity_consistent (n : ℕ) :
    ((activity session now acts n).activity.closed = false →
      (activity session now acts n).activity.lastSent ≠ none →
        (activity session now acts n).delivered =
          some (activity session now acts n).activity.state.control) ∧
    (∀ c r t, (activity session now acts n).holder = some (.control c r t) →
      c ≠ (activity session now acts n).activity.state.control →
        (activity session now acts n).activity.lastSent = none ∧
          ∀ result, ((activity session now acts n).resumed result).activity.lastSent = none) ∧
    ((activity session now acts n).holder = none → (activity session now acts n).admitted = true →
      (activity session now acts n).activity.lastSent = none → acts n = .tick →
        ∃ c, (activity session now acts (n + 1)).sent =
            (activity session now acts n).sent ++ [c] ∧
          (c = (activity session now acts (n + 1)).activity.state.control ∨ c = .audioEnd false)) ∧
    ((activity session now acts (n + 1)).sent ≠ (activity session now acts n).sent →
      (activity session now acts n).owns = true) ∧
    ((activity session now acts n).activity.closed = true → ∀ m, n ≤ m →
      (activity session now acts m).sent = (activity session now acts n).sent ∧
      (activity session now acts m).activity.lastSent =
        (activity session now acts n).activity.lastSent ∧
      (activity session now acts m).activity.pendingWrites =
        (activity session now acts n).activity.pendingWrites) ∧
    ((activity session now acts n).activity.closed = false →
      (activity session now acts n).activity.pendingWrites =
        (activity session now acts n).inFlight) ∧
    0 ≤ (activity session now acts n).activity.pendingWrites := by
  have h := inv_activity session now acts n
  have hstep : activity session now acts (n + 1) = (activity session now acts n).step (acts n) :=
    rfl
  refine ⟨h.told, fun c r t hholder hne => ?_, fun hfree hadm hsent hact => ?_, fun hmore => ?_,
    fun hclosed m hm => ?_, h.count, h.nonneg⟩
  · obtain ⟨-, hcontrol, hlast⟩ := h.holder c r t hholder
    have hnone : (activity session now acts n).activity.lastSent = none := by
      by_contra hsent
      exact hne (hcontrol (hlast hsent))
    refine ⟨hnone, fun result => ?_⟩
    unfold State.resumed
    rw [hholder]
    cases result with
    | delivered =>
      dsimp only
      rw [if_neg fun hcond => hne (hcontrol hcond.1)]
      exact hnone
    | refused =>
      dsimp only
      unfold State.stop
      split
      · exact hnone
      · split
        · exact hnone
        · exact hnone
    | raised => exact hnone
  · rw [hstep, hact]
    rcases State.tick_announces hfree hadm hsent with ⟨h₁, -⟩ | ⟨h₁, -⟩
    · exact ⟨_, h₁, .inl rfl⟩
    · exact ⟨_, h₁, .inr rfl⟩
  · rw [hstep] at hmore
    rcases State.step_sent (activity session now acts n) (acts n) with hsame | ⟨howns, -⟩
    · exact absurd hsame hmore
    · exact howns
  · have hrun := run_invariant_from
      (I := fun _ (s : State) => s.Inv ∧ s.activity.closed = true ∧
        s.sent = (activity session now acts n).sent ∧
        s.activity.lastSent = (activity session now acts n).activity.lastSent ∧
        s.activity.pendingWrites = (activity session now acts n).activity.pendingWrites)
      ⟨h, hclosed, rfl, rfl, rfl⟩ (fun k _ s hs => by
        obtain ⟨hinv, hc, hsent, hlast, hpending⟩ := hs
        obtain ⟨hc', hpending', hlast'⟩ := hinv.step_closed hc (acts k)
        refine ⟨hinv.step _, hc', ?_, hlast'.trans hlast, hpending'.trans hpending⟩
        rcases State.step_sent s (acts k) with hsame | ⟨howns, -⟩
        · exact hsame.trans hsent
        · exact absurd ((State.owns_open howns).symm.trans hc) (by decide)) hm
    exact ⟨hrun.2.2.1, hrun.2.2.2.1, hrun.2.2.2.2⟩

end Runs

/-- A session whose device answers to it. -/
def Session.owner : Session := ⟨false, false, true, false, none⟩

/-- A control that was sent counts as told behind the end that `stop` sends; a write under way when
the activity closes stays counted, in an epoch in which none is. -/
theorem close_keeps :
    (¬ ∀ session now acts n, (activity session now acts n).activity.lastSent ≠ none →
      (activity session now acts n).delivered =
        some (activity session now acts n).activity.state.control) ∧
    ¬ ∀ session now acts n, (activity session now acts n).activity.pendingWrites =
      (activity session now acts n).inFlight := by
  constructor
  · intro h
    -- work that is announced, and given up five minutes later
    have hrun := h .owner 0 (fun n => if n = 0 then .delegation [] true
      else if n = 3 then .clock 400
      else if n = 1 ∨ n = 4 then .tick
      else .resumed .delivered) 6
    revert hrun
    decide +kernel
  · intro h
    have hrun := h .owner 0 (fun n => if n = 0 then .write true else .close) 2
    exact absurd hrun (by decide)

end Vauxr.DeviceActivity
