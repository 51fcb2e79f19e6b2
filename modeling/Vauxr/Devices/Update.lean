import Vauxr.Lib.ReadBack
import Vauxr.Devices.Config

/-!
Updates of the device settings: the two HTTP handlers that make them (`web/server.py`), and
`update_config`, which writes the file and then memory (`devices/registry.py`).

The authorization of a request, its reply and the live entry of the device are left out. The file
is what a parser hands over: what a write puts there is what is read back of it.
-/

namespace Vauxr.Devices

open Lib

/-- A refusal: the status of the response and its error text. -/
structure Refusal where
  status : ℕ
  error : String
  deriving DecidableEq

def badRequest (error : String) : Refusal := ⟨400, error⟩

/-- The fields of an update; the pipeline mode is kept with the speech settings. -/
structure Patch where
  config : DeviceConfig
  pipelineMode : Option PipelineMode

/-- `{**old, **new}` -/
def DeviceConfig.merge (old new : DeviceConfig) : DeviceConfig where
  transportMode := new.transportMode <|> old.transportMode
  name := new.name <|> old.name
  voice := new.voice <|> old.voice
  followUpMode := new.followUpMode <|> old.followUpMode
  outputSampleRate := new.outputSampleRate <|> old.outputSampleRate
  bargeIn := new.bargeIn <|> old.bargeIn
  buttonActions := new.buttonActions <|> old.buttonActions

def Patch.update (old new : Patch) : Patch :=
  ⟨old.config.merge new.config, new.pipelineMode <|> old.pipelineMode⟩

/-- `voice_mode_patch` -/
def voiceModePatch : VoiceMode → Patch
  | .websocket =>
    ⟨{ DeviceConfig.empty with transportMode := some .websocket, bargeIn := some false },
      some .standard⟩
  | .realtime => ⟨{ DeviceConfig.empty with transportMode := some .webrtc }, some .realtime⟩
  | .webrtc => ⟨{ DeviceConfig.empty with transportMode := some .webrtc }, some .standard⟩

/-- A field of the body that must read when it is there. -/
def optional {α : Type} (d : Dict Text Value) (key : String) (read : Value → Option α)
    (message : String) : Except Refusal (Option α) :=
  match d.get? (text key) with
  | none => .ok none
  | some v => (demand (read v) (badRequest message)).map some

def optionalActions (d : Dict Text Value) : Except Refusal (Option ButtonActions) :=
  match d.get? (text "button_actions") with
  | none => .ok none
  | some v => ((parseButtonActions v).mapError badRequest).map some

/-- `update_device`, up to the update: what the body of a request asks for. -/
def updateDevice (body : Option Value) : Except Refusal Patch := do
  let d ← demand (body.bind Value.obj?) (badRequest "invalid JSON")
  let voiceMode ← optional d "voice_mode" (·.str?.bind VoiceMode.ofText?)
    "voice_mode must be websocket | webrtc | realtime"
  let pipelineMode ← optional d "pipeline_mode" (·.str?.bind PipelineMode.ofText?)
    "pipeline_mode must be standard | realtime"
  let name ← optional d "name" Value.str? "name must be a string"
  let voice ← optional d "voice" Value.bool? "voice must be a boolean"
  let followUpMode ← optional d "follow_up_mode" (·.str?.bind FollowUpMode.ofText?)
    "follow_up_mode must be 'auto' | 'always' | 'never'"
  let bargeIn ← optional d "barge_in" Value.bool? "barge_in must be a boolean"
  let buttonActions ← optionalActions d
  let patch : Patch := ⟨{ DeviceConfig.empty with
    name, voice, followUpMode, bargeIn, buttonActions }, pipelineMode⟩
  return voiceMode.elim patch fun mode => patch.update (voiceModePatch mode)

/-- The commands that are sent to the device. -/
def otherCommands : List Text := ["set_volume", "mute", "unmute", "reboot", "ota"].map text

/-- `device_command`, up to the update, for `set_barge_in`; other commands update nothing. -/
def deviceCommand (body : Option Value) : Except Refusal (Option Patch) := do
  let j ← demand body (badRequest "invalid JSON")
  let d ← demand j.obj? (badRequest "missing command")
  let command ← demand ((d.get? (text "command")).bind Value.str?) (badRequest "missing command")
  if command = text "set_barge_in" then
    let params ← demand ((d.get? (text "params")).bind Value.obj?)
      (badRequest "set_barge_in requires params.enabled")
    let enabled ← demand (params.get? (text "enabled"))
      (badRequest "set_barge_in requires params.enabled")
    let enabled ← demand enabled.bool? (badRequest "params.enabled must be a boolean")
    return some ⟨{ DeviceConfig.empty with bargeIn := some enabled }, none⟩
  else if command ∈ otherCommands then return none
  else throw (badRequest ("unknown command: " ++ fieldName command))

/-! ### The update -/

structure State where
  file : File
  configs : Dict Text DeviceConfig

/-- What the speech settings make of a pipeline mode. -/
inductive Speech
  | taken | refused | failed

/-- Where a write of the file fails, if it does: before or after the rename. -/
inductive WriteFault
  | none | before | after

def sameConfigs (a b : Dict Text DeviceConfig) : Bool :=
  (a.keys ++ b.keys).all fun device => a.get? device = b.get? device

def serverError : Refusal := ⟨500, "Internal Server Error"⟩

/-- `update_config`: the file first, then memory; when the write fails, memory follows if the
file turns out to be written. -/
def updateConfig (s : State) (speech : Speech) (fault : WriteFault) (device : Text)
    (patch : Patch) : Except Refusal Unit × State :=
  let merged := ((s.configs.get? device).getD .empty).merge patch.config
  let updated := s.configs.set device merged
  let written := File.json (save updated).readBack
  match patch.pipelineMode, speech with
  | some _, .refused => (.error (badRequest "Invalid device speech selection"), s)
  | some _, .failed => (.error serverError, s)
  | _, _ =>
    match fault with
    | .none => (.ok (), ⟨written, updated⟩)
    | .before =>
      (.error serverError, { s with configs := if sameConfigs (load s.file) updated then updated
        else s.configs })
    | .after =>
      (.error serverError, ⟨written, if sameConfigs (load written) updated then updated
        else s.configs⟩)

/-- One request, with what it meets: whether the device is connected, and the outcomes of the
speech settings and of the write. -/
structure Request where
  device : String
  connected : Bool
  patch : Bool
  body : Option Value
  speech : Speech
  fault : WriteFault

/-- The update a request asks for, if its handler gets that far. -/
def Request.asks (r : Request) : Except Refusal (Option Patch) := do
  refuse (!r.connected) ⟨404, "device not found"⟩
  if r.patch then return some (← updateDevice r.body) else deviceCommand r.body

def step (s : State) (r : Request) : Except Refusal Unit × State :=
  match r.asks with
  | .error e => (.error e, s)
  | .ok none => (.ok (), s)
  | .ok (some patch) => updateConfig s r.speech r.fault (text r.device) patch

/-- `load_configs(strict=True)`, at the start. -/
def start (file : File) : Except ConfigError State :=
  (loadStrict file).map fun (file, configs) => ⟨file, configs⟩

end Vauxr.Devices
