import Vauxr.Policy
import Vauxr.Voice.Pipeline
import Vauxr.Voice.Registry

/-!
The device sockets (`server.py`), their button prompts (`buttons.py`) and the part of the realtime
manager that they touch (`RealtimeManager` in `realtime/session.py`).

A handler runs from a suspension to the next in one step; what it does behind the suspension is
kept as a continuation. The configuration is read where the source reads it, and comes in with
the step. Sample rates, names, the microphone switch and the policy in a `hello` are left out.
-/

namespace Vauxr.Voice

open Vauxr.Lib

def wsOperations : List (String × Operation) :=
  [("hello", .deviceConnect), ("voice.start", .deviceAudio), ("voice.end", .deviceAudio),
    ("abort", .deviceControl), ("realtime.start", .deviceAudio),
    ("realtime.media_ready", .deviceControl), ("realtime.pause", .deviceControl),
    ("realtime.resume", .deviceControl), ("realtime.stop", .deviceControl),
    ("device.button", .deviceButton)]

def wsOperation? (type : String) : Option Operation :=
  (wsOperations.find? (·.1 == type)).map Prod.snd

inductive ConnectionState
  | idle | listening | processing
  deriving DecidableEq

/-- The context of a socket. A startup is named by its key. -/
structure Ctx where
  state : ConnectionState
  deviceId : Option String
  principal : Option Principal
  realtime : Bool
  realtimeMedia : Bool
  startup : Option ℕ

def Ctx.new : Ctx := ⟨.idle, none, none, false, false, none⟩

/-! ### The realtime manager -/

structure Session where
  key : ℕ
  live : Bool
  deriving DecidableEq

/-- The audio of a cold wake (`realtime/startup.py`), with the socket and the device of its
failure callback. -/
structure Startup where
  id : ℤ
  ws : ℕ
  deviceId : String
  closed : Bool
  nextSeq : ℤ

structure Manager where
  sessions : Dict String Session
  wakes : Dict String ℕ
  deviceWakes : Dict String ℕ
  startups : Dict String ℕ
  startupTable : Dict ℕ Startup
  liveDevices : List String

namespace Manager

def empty : Manager :=
  ⟨Dict.empty, Dict.empty, Dict.empty, Dict.empty, Dict.empty, []⟩

def hasLiveSession (m : Manager) (deviceId : String) : Bool :=
  (m.sessions.get? deviceId).any (·.live)

def session? (m : Manager) (deviceId : String) : Option ℕ :=
  (m.sessions.get? deviceId).map (·.key)

def closeStartup (m : Manager) (deviceId : String) : Manager :=
  match m.startups.get? deviceId with
  | some key =>
    match m.startupTable.get? key with
    | some startup =>
      { m with startupTable := m.startupTable.set key { startup with closed := true } }
    | none => m
  | none => m

/-- `begin_startup`. The numbers of the wake and of the startup are new. -/
def beginStartup (m : Manager) (deviceId : String) (wake key : ℕ) (startup : Startup)
    (live : Bool) : Manager :=
  let m := m.closeStartup deviceId
  { m with
    wakes := m.wakes.set deviceId wake
    deviceWakes := m.deviceWakes.set deviceId wake
    startups := m.startups.set deviceId key
    startupTable := m.startupTable.set key startup
    liveDevices :=
      if live then deviceId :: m.liveDevices else m.liveDevices.filter (· ≠ deviceId) }

/-- What `_stop_wake` takes out. -/
def retire (m : Manager) (deviceId : String) : Manager :=
  { m with
    startups := m.startups.erase deviceId
    wakes := m.wakes.erase deviceId
    deviceWakes := m.deviceWakes.erase deviceId
    liveDevices := m.liveDevices.filter (· ≠ deviceId) }

/-- A session that has closed forgets itself. -/
def forget (m : Manager) (deviceId : String) (session : Option ℕ) : Manager :=
  if m.session? deviceId = session then { m with sessions := m.sessions.erase deviceId } else m

end Manager

/-! ### Suspended work -/

/-- What `_stop_wake` has read before it closes the session. -/
structure Captured where
  session : Option ℕ
  wake : Option ℕ
  ws : Option ℕ

/-- What follows a teardown. -/
inductive Next
  | nothing
  | voiceStart
  | voiceEnd
  | realtimeStart (explicitLive persistedLive : Bool) (startupId : Option ℤ)
  | startupRequired
  | unregister

inductive Cont
  /-- `_stop_wake`, closing a session. -/
  | stopWake (captured : Captured) (next : Next)
  /-- The failure callback of a startup, scheduled, and behind its send. -/
  | failed (startup : ℕ) (code : String)
  | failedSent (startup : ℕ)
  /-- A scheduled `handle_device_button`. -/
  | button

/-- Whether the work is that of a message, of a task that a message left behind, or of the end of
the socket. -/
inductive Kind
  | message | task | teardown
  deriving DecidableEq

structure Suspended where
  ws : ℕ
  deviceId : String
  kind : Kind
  cont : Cont

/-! ### Turns -/

/-- `send_prompt_audio_end`, with its `audio.end` under way. -/
inductive Ending
  | session
  | plain (followUp : Bool) (wake ws : Option ℕ)

/-- A turn under way, stored under its abort event: `_run` of `_voice_end`, or
`_dispatch_prompt`. -/
structure Job where
  deviceId : String
  ws : ℕ
  entry : Option ℕ
  prompt : Bool
  turn : Turn
  ending : Option Ending
  rescued : Bool
  finished : Bool

inductive Reply
  | hello | ready | armed
  | error (code message : String)

/-! ### The state -/

/-- A frame sent for a turn, with whether the turn was neither aborted nor replaced. -/
structure Emission where
  event : ℕ
  ws : ℕ
  frame : Frame
  fresh : Bool

/-- A device state written at the end of a turn, with whether the turn owned the entry. -/
structure Reset where
  event : ℕ
  owned : Bool

/-- `ended` are the sockets whose handlers have come to their end, and `retired` the credentials
that are not current any more. The last four fields are a record of the run: the sockets behind a
newer one of their device, the turns behind a newer one of their device, and what was sent and
written for turns. -/
structure Server where
  registry : Registry
  ctxs : Dict ℕ Ctx
  closed : List ℕ
  ended : List ℕ
  manager : Manager
  suspended : List Suspended
  jobs : Dict ℕ Job
  retired : List Principal
  replies : List (ℕ × Reply)
  superseded : List ℕ
  replaced : List ℕ
  emissions : List Emission
  resets : List Reset

/-- What the handlers read from the configuration. `button` is the text of the prompt that the
gesture is mapped to, if it is mapped to one. -/
structure Settings where
  speech : Bool
  realtime : Bool
  webrtc : Bool
  browser : Bool
  persistedLive : Bool
  liveVoice : Bool
  button : Option Text

namespace Server

def init : Server where
  registry := .empty
  ctxs := Dict.empty
  closed := []
  ended := []
  manager := .empty
  suspended := []
  jobs := Dict.empty
  retired := []
  replies := []
  superseded := []
  replaced := []
  emissions := []
  resets := []

def ctx (s : Server) (ws : ℕ) : Ctx := (s.ctxs.get? ws).getD .new

def setCtx (s : Server) (ws : ℕ) (f : Ctx → Ctx) : Server :=
  { s with ctxs := s.ctxs.set ws (f (s.ctx ws)) }

def reply (s : Server) (ws : ℕ) (r : Reply) : Server := { s with replies := (ws, r) :: s.replies }

def close (s : Server) (ws : ℕ) : Server := { s with closed := ws :: s.closed }

def current (s : Server) (principal : Option Principal) : Bool :=
  principal.any (· ∉ s.retired)

/-- `_device_ws`. -/
def deviceWs (s : Server) (deviceId : String) : Option ℕ :=
  (s.registry.get? deviceId).map (·.ws)

/-- A newer socket has registered for the device, or the credential is not current any more. -/
def stale (s : Server) (ws : ℕ) : Bool :=
  ws ∈ s.superseded || (s.ctx ws).principal.any (· ∈ s.retired)

def setState (s : Server) (deviceId : String) (state : DeviceState) : Server :=
  { s with registry := s.registry.setState deviceId state }

def abortActiveTurn (s : Server) (deviceId : String) : Server :=
  { s with registry := s.registry.abortActiveTurn deviceId }

/-- The other sockets that claim the device are superseded. -/
def register (s : Server) (ws : ℕ) (deviceId : String) : Server :=
  let others := (s.ctxs.entries.filter fun e => e.1 ≠ ws ∧ e.2.deviceId = some deviceId).map Prod.fst
  { s with
    registry := s.registry.register deviceId ws
    superseded := others ++ s.superseded }

/-- A turn begins; earlier turns of the device are replaced. -/
def startTurn (s : Server) (ws : ℕ) (deviceId : String) (prompt : Bool) (turn : Turn) : Server :=
  let (event, registry) := s.registry.fresh
  let earlier := (s.jobs.entries.filter fun e => e.2.deviceId = deviceId).map Prod.fst
  { s with
    registry := registry.setAbortEvent deviceId (some event)
    jobs := s.jobs.set event
      { deviceId, ws, entry := (registry.get? deviceId).map (·.key), prompt, turn,
        ending := none, rescued := false, finished := false }
    replaced := earlier ++ s.replaced }

/-! ### Teardown of a wake -/

/-- No other session, wake or socket has come in the meantime. -/
def wakeStands (s : Server) (deviceId : String) (captured : Captured) : Bool :=
  let session := s.manager.session? deviceId
  (session = none || session = captured.session) &&
    s.manager.wakes.get? deviceId = captured.wake && s.deviceWs deviceId = captured.ws

/-- `_stop_wake` behind the close of the session. -/
def wakeStopped (s : Server) (deviceId : String) (captured : Captured) : Server :=
  if s.wakeStands deviceId captured then
    { s with manager := s.manager.retire deviceId }.setState deviceId .idle
  else s

/-- `_stop_wake`. It waits only where there is a session to close. -/
def stopWake (s : Server) (ws : ℕ) (deviceId : String) (kind : Kind) (next : Next)
    (k : Server → Server) : Server :=
  let captured : Captured :=
    ⟨s.manager.session? deviceId, s.manager.wakes.get? deviceId, s.deviceWs deviceId⟩
  let s := { s with manager := s.manager.closeStartup deviceId }
  if captured.session.isSome then
    { s with suspended := s.suspended ++ [⟨ws, deviceId, kind, .stopWake captured next⟩] }
  else k (s.wakeStopped deviceId captured)

def voiceAbort (s : Server) (ws : ℕ) (deviceId : String) : Server :=
  ((s.abortActiveTurn deviceId).setState deviceId .idle).setCtx ws fun c =>
    { c with state := .idle }

def realtimeStop (s : Server) (ws : ℕ) (deviceId : String) (kind : Kind) (next : Next)
    (k : Server → Server) : Server :=
  ((s.voiceAbort ws deviceId).setCtx ws fun c =>
    { c with realtime := false, realtimeMedia := false, startup := none }).stopWake ws deviceId
      kind next k

/-! ### Handlers -/

def hello (s : Server) (ws : ℕ) (deviceId : String) : Server :=
  (s.register ws deviceId).reply ws .hello

def voiceStart (s : Server) (ws : ℕ) (deviceId : String) (settings : Settings) : Server :=
  let s := s.abortActiveTurn deviceId
  if settings.speech then
    let s := s.setCtx ws fun c => { c with state := .listening }
    ((s.register ws deviceId).setState deviceId .listening).reply ws .ready
  else
    (s.reply ws (.error "SPEECH_UNAVAILABLE" "Selected speech provider is not configured")).setCtx
      ws fun c => { c with state := .idle }

def voiceEnd (s : Server) (ws : ℕ) (deviceId : String) : Server :=
  if (s.ctx ws).state ≠ .listening then
    s.reply ws (.error "INVALID_STATE" "Not in listening state")
  else
    let s := s.setCtx ws fun c => { c with state := .processing }
    (s.setState deviceId .processing).startTurn ws deviceId false (.new .voice [])

/-- The field `startup_id` of a message, where it is an integer. -/
def startupId? (msg : Dict String Json) : Option ℤ := (msg.get? "startup_id").bind Json.int?

/-- `_realtime_start` behind the teardown: the socket and its credential are checked again. -/
def realtimeArm (s : Server) (ws : ℕ) (deviceId : String) (explicitLive persistedLive : Bool)
    (startupId : Option ℤ) : Server :=
  if !s.current (s.ctx ws).principal || s.deviceWs deviceId ≠ some ws then s.close ws
  else if explicitLive then
    let s := s.setCtx ws fun c => { c with realtime := true, realtimeMedia := true }
    (({ s with manager :=
        { s.manager with liveDevices := deviceId :: s.manager.liveDevices } }).setState deviceId
          .listening).reply ws .armed
  else
    let s := s.setCtx ws fun c => { c with realtime := true, realtimeMedia := false }
    match startupId.filter fun id => 0 < id ∧ id ≤ 0xffffffff with
    | none =>
      s.realtimeStop ws deviceId .message .startupRequired fun s =>
        s.reply ws (.error "REALTIME_STARTUP_REQUIRED"
          "Device requires the streaming startup protocol")
    | some id =>
      let (key, registry) := s.registry.fresh
      let (wake, registry) := registry.fresh
      let s := { s with
        registry
        manager :=
          s.manager.beginStartup deviceId wake key ⟨id, ws, deviceId, false, 0⟩ persistedLive }
      let s := s.setCtx ws fun c => { c with startup := some key, state := .listening }
      (s.setState deviceId .listening).reply ws .ready

/-- What a handler does behind a teardown. -/
def proceed (s : Server) (ws : ℕ) (deviceId : String) (settings : Settings) : Next → Server
  | .nothing => s
  | .voiceStart => s.voiceStart ws deviceId settings
  | .voiceEnd => s.voiceEnd ws deviceId
  | .realtimeStart explicitLive persistedLive startupId =>
    s.realtimeArm ws deviceId explicitLive persistedLive startupId
  | .startupRequired =>
    s.reply ws (.error "REALTIME_STARTUP_REQUIRED"
      "Device requires the streaming startup protocol")
  | .unregister => { s with registry := s.registry.unregister deviceId ws }

def realtimeStart (s : Server) (ws : ℕ) (deviceId : String) (msg : Dict String Json)
    (settings : Settings) : Server :=
  let explicitLive := (msg.get? "mode").bind Json.str? = some "live"
  let browserLive := explicitLive && !settings.webrtc && settings.browser
  if !(settings.realtime && (settings.webrtc || browserLive)) then
    s.reply ws (.error "REALTIME_UNAVAILABLE"
      "Realtime transport is not enabled for this device")
  else
    let s := s.setCtx ws fun c => { c with realtime := true }
    let s := s.register ws deviceId
    let startup := (s.ctx ws).startup.bind s.manager.startupTable.get?
    if startup.any fun st => !st.closed && startupId? msg = some st.id then s.reply ws .ready
    else if s.manager.hasLiveSession deviceId && (msg.get? "startup_id").isNone then
      ((s.setCtx ws fun c => { c with realtimeMedia := true }).setState deviceId
        .listening).reply ws .ready
    else if (explicitLive || settings.persistedLive) && !settings.liveVoice then
      (s.setCtx ws fun c => { c with realtime := false }).reply ws
        (.error "REALTIME_UNAVAILABLE"
          "Select Realtime in speech settings and configure the server OpenAI key")
    else
      let next := Next.realtimeStart explicitLive settings.persistedLive (startupId? msg)
      (s.setCtx ws fun c => { c with startup := none }).stopWake ws deviceId .message next
        fun s => s.proceed ws deviceId settings next

def mediaReady (s : Server) (ws : ℕ) (msg : Dict String Json) : Server :=
  match (s.ctx ws).startup.bind s.manager.startupTable.get?, startupId? msg,
      (msg.get? "next_seq").bind Json.int? with
  | some startup, some id, some nextSeq =>
    if !startup.closed && startup.id = id && startup.nextSeq = nextSeq then
      s.setCtx ws fun c => { c with realtimeMedia := true }
    else s
  | _, _, _ => s

/-- A prompt is dropped when the device is busy. -/
def takesPrompt (entry : Entry) (text : Text) : Bool :=
  !text.strip.isEmpty && entry.state ≠ .listening && entry.state ≠ .processing

/-- `_dispatch_prompt`, up to its turn. -/
def dispatchPrompt (s : Server) (deviceId : String) (text : Text) : Server :=
  match s.registry.get? deviceId with
  | some entry =>
    if takesPrompt entry text then
      (s.setState deviceId .processing).startTurn entry.ws deviceId true
        (.new .start text.strip)
    else s
  | none => s

/-- The message handlers, by the type of the message. -/
def dispatch (s : Server) (ws : ℕ) (deviceId : String) (type : String) (msg : Dict String Json)
    (settings : Settings) : Server :=
  if type = "hello" then s.hello ws deviceId
  else if type = "voice.start" then
    if (s.ctx ws).realtime then s else s.voiceStart ws deviceId settings
  else if type = "voice.end" then
    if (s.ctx ws).realtime then s else s.voiceEnd ws deviceId
  else if type = "abort" then
    if (s.ctx ws).realtime then s.realtimeStop ws deviceId .message .nothing id
    else s.voiceAbort ws deviceId
  else if type = "realtime.start" then s.realtimeStart ws deviceId msg settings
  else if type = "realtime.media_ready" then s.mediaReady ws msg
  else if type = "realtime.stop" then s.realtimeStop ws deviceId .message .nothing id
  else if type = "device.button" then
    { s with suspended := s.suspended ++ [⟨ws, deviceId, .task, .button⟩] }
  else s

/-! ### Messages -/

def deny (s : Server) (ws : ℕ) (authenticated : Bool) : Server :=
  (s.reply ws (.error (if authenticated then "FORBIDDEN" else "UNAUTHORIZED")
    "Access denied")).close ws

/-- The principal that a message speaks for, and the device that it names. -/
def claimed (s : Server) (ws : ℕ) (msg : Dict String Json) (authenticated : Option Principal) :
    Option Principal × Option String :=
  (if (msg.get? "token").isSome then authenticated else (s.ctx ws).principal,
    (msg.get? "device_id").elim (s.ctx ws).deviceId Json.str?)

/-- The check of `_authorize_message`. -/
def authorized (s : Server) (ws : ℕ) (type : String) (msg : Dict String Json)
    (authenticated : Option Principal) : Bool :=
  let (principal, resource) := s.claimed ws msg authenticated
  s.current principal &&
    (wsOperation? type).any (Policy.allowed principal · resource false) &&
    ((s.ctx ws).principal = none || principal = (s.ctx ws).principal) &&
    ((s.ctx ws).deviceId = none || resource = (s.ctx ws).deviceId) &&
    ((s.ctx ws).principal = none ||
      (s.ctx ws).deviceId.any fun deviceId => s.deviceWs deviceId = some ws)

def binds (type : String) : Bool := type ∈ ["hello", "voice.start", "realtime.start"]

/-- The context is in a realtime session that is not live. -/
def staleMedia (s : Server) (ws : ℕ) (deviceId : String) : Bool :=
  (s.ctx ws).realtimeMedia && !s.manager.hasLiveSession deviceId

/-- `handle_text`, for a message of a text type. A voice message of a realtime context first tears
down a session that is not live. -/
def handleText (s : Server) (ws : ℕ) (type : String) (msg : Dict String Json)
    (authenticated : Option Principal) (settings : Settings) : Server :=
  let (principal, resource) := s.claimed ws msg authenticated
  if !s.authorized ws type msg authenticated then s.deny ws (s.current principal)
  else if (s.ctx ws).principal = none ∧ !binds type then s.deny ws true
  else
    match resource with
    | none => s
    | some deviceId =>
      let s := if (s.ctx ws).principal = none then
          s.setCtx ws fun c => { c with principal, deviceId := some deviceId }
        else s
      if s.staleMedia ws deviceId && (type = "voice.start" || type = "voice.end") then
        let next := if type = "voice.start" then Next.voiceStart else .voiceEnd
        s.realtimeStop ws deviceId .message next fun s => s.proceed ws deviceId settings next
      else s.dispatch ws deviceId type msg settings

/-- A message is still being handled, or the end of the socket. -/
def handling (s : Server) (ws : ℕ) : Bool :=
  s.suspended.any fun c => c.ws = ws && c.kind ≠ .task

/-- A message is taken when the one before it is done with. -/
def busy (s : Server) (ws : ℕ) : Bool := ws ∈ s.closed || s.handling ws

/-- The end of `device_ws_handler`. -/
def disconnect (s : Server) (ws : ℕ) (settings : Settings) : Server :=
  let s := s.close ws
  match (s.ctx ws).deviceId with
  | none => s
  | some deviceId =>
    if s.deviceWs deviceId = none ∨ s.deviceWs deviceId = some ws then
      let s := s.abortActiveTurn deviceId
      if (s.ctx ws).realtime then
        s.stopWake ws deviceId .teardown .unregister fun s =>
          s.proceed ws deviceId settings .unregister
      else s.proceed ws deviceId settings .unregister
    else s

/-- `close_revoked`. The teardown of a session is left to the media. -/
def closeRevoked (s : Server) (ws : ℕ) : Server :=
  match (s.ctx ws).principal, (s.ctx ws).deviceId with
  | some principal, some deviceId =>
    if principal ∈ s.retired then
      let s := s.close ws
      if s.deviceWs deviceId = none ∨ s.deviceWs deviceId = some ws then
        let s := s.abortActiveTurn deviceId
        { s with registry := s.registry.unregister deviceId ws }
      else s
    else s
  | _, _ => s

/-- `StartupAudio.fail`. -/
def startupFails (s : Server) (key : ℕ) (code : String) : Server :=
  match s.manager.startupTable.get? key with
  | some startup =>
    if startup.closed then s
    else
      { s with
        manager := { s.manager with
          startupTable := s.manager.startupTable.set key { startup with closed := true } }
        suspended :=
          s.suspended ++ [⟨startup.ws, startup.deviceId, .task, .failed key code⟩] }
  | none => s

/-- The startup is still the one of its context and of its device. -/
def startupStands (s : Server) (ws : ℕ) (deviceId : String) (key : ℕ) : Bool :=
  (s.ctx ws).startup = some key && s.manager.startups.get? deviceId = some key

/-- Suspended work goes on. -/
def resume (s : Server) (c : Suspended) (settings : Settings) : Server :=
  match c.cont with
  | .stopWake captured next =>
    let s := { s with manager := s.manager.forget c.deviceId captured.session }
    (s.wakeStopped c.deviceId captured).proceed c.ws c.deviceId settings next
  | .failed key code =>
    if s.startupStands c.ws c.deviceId key && s.deviceWs c.deviceId = some c.ws then
      let s := s.reply c.ws (.error code "Realtime startup failed")
      { s with suspended := s.suspended ++ [⟨c.ws, c.deviceId, .task, .failedSent key⟩] }
    else s
  | .failedSent key =>
    if s.startupStands c.ws c.deviceId key then
      s.realtimeStop c.ws c.deviceId .task .nothing id
    else s
  | .button =>
    match settings.button with
    | some text => s.dispatchPrompt c.deviceId text
    | none => s

end Server

end Vauxr.Voice
