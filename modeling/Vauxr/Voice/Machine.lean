import Vauxr.Lib.Run
import Vauxr.Voice.Server

/-!
The device sockets, their turns and their surroundings as one machine. An action is one step of a
coroutine, or a move of the surroundings: the credentials, the sockets, the media of a realtime
session.
-/

namespace Vauxr.Voice

open Vauxr.Lib Vauxr.Devices

/-- What a step of a turn reads of its surroundings. `delivered` tells whether its send got
through; the last two are what a retained session makes of an `audio.end`. -/
structure TurnWorld where
  route : Route
  followUpMode : FollowUpMode
  adapter : Adapter
  targetRate : Option ℕ
  idleEnabled : Bool
  delivered : Bool
  sessionSends : Bool
  sessionState : Option DeviceState

namespace Server

def aborted (s : Server) (event : ℕ) : Bool := event ∈ s.registry.set

/-- The entry of the device is the one that the turn began on, and still holds its event. -/
def owns (s : Server) (event : ℕ) (job : Job) : Bool :=
  (s.registry.get? job.deviceId).any fun entry =>
    decide (some entry.key = job.entry ∧ entry.abortEvent = some event)

/-- The turn is neither aborted nor replaced. -/
def standing (s : Server) (event : ℕ) : Bool := !s.aborted event && event ∉ s.replaced

def emit (s : Server) (event ws : ℕ) (frame : Frame) : Server :=
  { s with emissions := ⟨event, ws, frame, s.standing event⟩ :: s.emissions }

/-- A turn writes the state of its device. -/
def writeState (s : Server) (event : ℕ) (job : Job) (state : DeviceState) : Server :=
  { s with resets := ⟨event, s.owns event job⟩ :: s.resets }.setState job.deviceId state

def setJob (s : Server) (event : ℕ) (job : Job) : Server :=
  { s with jobs := s.jobs.set event job }

/-- `closed` of `_VoiceTurnOutput`. -/
def outputClosed (s : Server) (event : ℕ) (job : Job) : Bool :=
  s.aborted event || job.ws ∈ s.closed ||
    (s.registry.get? job.deviceId).all fun entry =>
      entry.ws ≠ job.ws || entry.abortEvent ≠ some event

/-- `send_audio_end` of a prompt: it goes by the manager, and only for the turn that owns the
entry. -/
def promptAudioEnd (s : Server) (event : ℕ) (job : Job) (followUp : Bool) (world : TurnWorld) :
    Server :=
  match s.owns event job && !s.aborted event, s.deviceWs job.deviceId with
  | true, some ws =>
    if (s.manager.session? job.deviceId).isSome then
      let s := s.setJob event { job with ending := some .session }
      if world.sessionSends then s.emit event ws (.audioEnd followUp) else s
    else if ws ∈ s.closed then s
    else
      let wake := s.manager.wakes.get? job.deviceId
      (s.setJob event { job with ending := some (.plain followUp wake (some ws)) }).emit event ws
        (.audioEnd followUp)
  | _, _ => s

/-- A frame is handed to the output of its turn: the fence of a voice turn, the bare socket of a
prompt. -/
def send (s : Server) (event : ℕ) (job : Job) (frame : Frame) (world : TurnWorld) : Server :=
  if job.prompt then
    match frame with
    | .audioEnd followUp => s.promptAudioEnd event job followUp world
    | _ => if job.ws ∈ s.closed then s else s.emit event job.ws frame
  else if s.outputClosed event job then s
  else s.emit event job.ws frame

/-- `send_prompt_audio_end` behind its send. -/
def completeEnding (s : Server) (event : ℕ) (job : Job) (world : TurnWorld) : Server :=
  match job.ending with
  | some .session =>
    match world.sessionState with
    | some state => s.writeState event job state
    | none => s
  | some (.plain followUp wake ws) =>
    if world.delivered ∧ s.manager.session? job.deviceId = none ∧
        s.manager.wakes.get? job.deviceId = wake ∧ s.deviceWs job.deviceId = ws then
      s.writeState event job (if followUp then .listening else .idle)
    else s
  | none => s

/-- The end of `_run`, and of `_dispatch_prompt`. -/
def finish (s : Server) (event : ℕ) (job : Job) : Server :=
  let s := s.setJob event { job with finished := true }
  if s.owns event job then
    if job.prompt then
      let processing := (s.registry.get? job.deviceId).any (·.state = .processing)
      let s := if processing then s.writeState event job .idle else s
      { s with registry := s.registry.setAbortEvent job.deviceId none }
    else
      let s := (s.setCtx job.ws fun c => { c with state := .idle }).writeState event job .idle
      { s with registry := s.registry.setAbortEvent job.deviceId none }
  else s

def turnEnv (s : Server) (event : ℕ) (world : TurnWorld) : TurnEnv where
  aborted := s.aborted event
  route := world.route
  followUpMode := world.followUpMode
  adapter := world.adapter
  targetRate := world.targetRate
  idleEnabled := world.idleEnabled

/-- The turn goes on behind its last send. -/
def endsNow (job : Job) : TurnInput → Bool
  | .resume => decide (job.turn.main = .last)
  | _ => false

/-- One step of a turn, and what it comes to. -/
def stepTurn (s : Server) (event : ℕ) (job : Job) (input : TurnInput) (world : TurnWorld) :
    Server :=
  let s := if endsNow job input then s.completeEnding event job world else s
  let (turn, frame) := job.turn.step (s.turnEnv event world) input
  let job := { job with turn }
  let s := s.setJob event job
  let s := match frame with
    | some frame => s.send event job frame world
    | none => s
  if turn.main = .done ∧ job.finished = false then s.finish event ((s.jobs.get? event).getD job)
  else s

/-- An exception has left the pipeline. A voice turn reports it, when it is not aborted. -/
def rescue (s : Server) (event : ℕ) (job : Job) : Server :=
  if job.turn.main = .raised ∧ job.turn.queue.worker = .done ∧ job.finished = false then
    if job.prompt || job.rescued || s.aborted event then s.finish event job
    else
      let s := s.setJob event { job with rescued := true }
      if job.ws ∈ s.closed then s
      else s.emit event job.ws (.error "PIPELINE_ERROR" (text "Pipeline error"))
  else s

end Server

inductive Action
  | message (ws : ℕ) (msg : Dict String Json) (authenticated : Option Principal)
      (settings : Settings)
  | resume (i : ℕ) (settings : Settings)
  | turn (event : ℕ) (input : TurnInput) (world : TurnWorld)
  | rescue (event : ℕ)
  | disconnect (ws : ℕ) (settings : Settings)
  /-- A credential stops being current, and its sockets are closed some time later. -/
  | retire (principal : Principal)
  | closeRevoked (ws : ℕ)
  | startupFails (key : ℕ) (code : String)
  /-- Offers, peers and sessions come and go. -/
  | media (manager : Manager)
  /-- A session writes the state of its device: a deferred `audio.end`, the end of a peer. -/
  | sessionState (deviceId : String) (state : DeviceState)

namespace Server

def step (s : Server) : Action → Server
  | .message ws msg authenticated settings =>
    if s.busy ws then s
    else
      match (msg.get? "type").bind Json.str? with
      | none => s.reply ws (.error "INVALID_MESSAGE" "Invalid JSON")
      | some type => s.handleText ws type msg authenticated settings
  | .resume i settings =>
    match s.suspended[i]? with
    | some c => { s with suspended := s.suspended.eraseIdx i }.resume c settings
    | none => s
  | .turn event input world =>
    match s.jobs.get? event with
    | some job => s.stepTurn event job input world
    | none => s
  | .rescue event =>
    match s.jobs.get? event with
    | some job => s.rescue event job
    | none => s
  | .disconnect ws settings =>
    -- also behind a close by the server, and once for each socket
    if ws ∈ s.ended ∨ s.handling ws = true then s
    else { s with ended := ws :: s.ended }.disconnect ws settings
  | .retire principal => { s with retired := principal :: s.retired }
  | .closeRevoked ws => s.closeRevoked ws
  | .startupFails key code => s.startupFails key code
  | .media manager => { s with manager }
  | .sessionState deviceId state => s.setState deviceId state

end Server

end Vauxr.Voice
