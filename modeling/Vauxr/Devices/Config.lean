import Vauxr.Lib.Refine
import Vauxr.Lib.Text

/-!
The settings of a device (`devices/config.py`): the parsers of its fields, the strict loader of
the start, the lenient one, and the writer of `devices.json`.

The order of the keys of a settings object carries no meaning and is not kept.
-/

namespace Vauxr.Devices

open Lib

/-- `re.compile(r"[\u0000-\u001f\u007f-\u009f\u200b-\u200f\u2028-\u202e\u2060-\u206f\ufeff]")` -/
def displayNameControl (c : CodePoint) : Bool :=
  c.1 ≤ 0x1f || (0x7f ≤ c.1 && c.1 ≤ 0x9f) || (0x200b ≤ c.1 && c.1 ≤ 0x200f) ||
    (0x2028 ≤ c.1 && c.1 ≤ 0x202e) || (0x2060 ≤ c.1 && c.1 ≤ 0x206f) || c.1 = 0xfeff

/-- The names that can be displayed. -/
def displayName (name : Text) : Bool :=
  !name.any displayNameControl && name.utf16Length ≤ 128

/-! ### Enumerations -/

inductive PipelineMode
  | standard | realtime
  deriving DecidableEq

def PipelineMode.ofText? (t : Text) : Option PipelineMode :=
  if t = text "standard" then some .standard
  else if t = text "realtime" then some .realtime
  else none

inductive TransportMode
  | websocket | webrtc
  deriving DecidableEq

def TransportMode.value : TransportMode → Text
  | .websocket => text "websocket"
  | .webrtc => text "webrtc"

inductive VoiceMode
  | websocket | webrtc | realtime
  deriving DecidableEq

def VoiceMode.ofText? (t : Text) : Option VoiceMode :=
  if t = text "websocket" then some .websocket
  else if t = text "webrtc" then some .webrtc
  else if t = text "realtime" then some .realtime
  else none

inductive FollowUpMode
  | auto | always | never
  deriving DecidableEq

def FollowUpMode.value : FollowUpMode → Text
  | .auto => text "auto"
  | .always => text "always"
  | .never => text "never"

def FollowUpMode.ofText? (t : Text) : Option FollowUpMode :=
  [FollowUpMode.auto, .always, .never].find? fun m => m.value = t

inductive Gesture
  | doublePress | triplePress | longPress
  deriving DecidableEq

def Gesture.name : Gesture → String
  | .doublePress => "double_press"
  | .triplePress => "triple_press"
  | .longPress => "long_press"

def Gesture.ofText? (t : Text) : Option Gesture :=
  [Gesture.doublePress, .triplePress, .longPress].find? fun g => text g.name = t

/-! ### Button actions -/

/-- A text without white space at its ends, and not empty. -/
abbrev Stripped := {t : Text // t.strip = t ∧ t ≠ []}

inductive Command
  | setVolume (volume : Fin 101)
  | mute | unmute | reboot
  deriving DecidableEq

inductive ButtonAction
  | prompt (text : Stripped)
  | announce (text : Stripped)
  | command (command : Command)
  | webhook (id : Stripped)
  deriving DecidableEq

/-- The stripped text of a field, if anything is left of it. -/
def stripped? (v : Option Value) : Option Stripped := do
  let t ← v.bind Value.str?
  if h : t.strip ≠ [] then some ⟨t.strip, t.strip_strip, h⟩ else none

/-- An integer between 0 and 100; truth values are none. -/
def volume? (v : Option Value) : Option (Fin 101) := do
  let n ← v.bind Value.int?
  if h : 0 ≤ n ∧ n ≤ 100 then some ⟨n.toNat, by omega⟩ else none

def kindMessage : String :=
  "kind must be 'none' | 'prompt' | 'announce' | 'command' | 'webhook'"

def commandMessage : String := "command must be 'set_volume' | 'mute' | 'unmute' | 'reboot'"

/-- `parse_button_action`; the kind `none` yields no action. -/
def parseButtonAction (raw : Value) : Except String (Option ButtonAction) := do
  let d ← demand raw.obj? "each button action must be an object"
  let kind ← demand ((d.get? (text "kind")).bind Value.str?) kindMessage
  if kind = text "none" then return none
  else if kind = text "prompt" then
    let t ← demand (stripped? (d.get? (text "text"))) "prompt requires a non-empty text field"
    return some (.prompt t)
  else if kind = text "announce" then
    let t ← demand (stripped? (d.get? (text "text"))) "announce requires a non-empty text field"
    return some (.announce t)
  else if kind = text "command" then
    let command ← demand ((d.get? (text "command")).bind Value.str?) commandMessage
    if command = text "set_volume" then
      let volume ← demand (volume? (d.get? (text "volume")))
        "set_volume requires volume as an integer 0–100"
      return some (.command (.setVolume volume))
    else if command = text "mute" then return some (.command .mute)
    else if command = text "unmute" then return some (.command .unmute)
    else if command = text "reboot" then return some (.command .reboot)
    else throw commandMessage
  else if kind = text "webhook" then
    let id ← demand (stripped? (d.get? (text "webhook_id"))) "webhook requires webhook_id"
    return some (.webhook id)
  else throw kindMessage

/-- The actions of the gestures. -/
structure ButtonActions where
  doublePress : Option ButtonAction
  triplePress : Option ButtonAction
  longPress : Option ButtonAction
  deriving DecidableEq

namespace ButtonActions

def empty : ButtonActions := ⟨none, none, none⟩

def set (actions : ButtonActions) (action : ButtonAction) : Gesture → ButtonActions
  | .doublePress => { actions with doublePress := some action }
  | .triplePress => { actions with triplePress := some action }
  | .longPress => { actions with longPress := some action }

end ButtonActions

def parseGesture (out : ButtonActions) (item : Text × Value) : Except String ButtonActions := do
  let gesture ← demand (Gesture.ofText? item.1)
    "gestures must be 'double_press' | 'triple_press' | 'long_press'"
  match parseButtonAction item.2 with
  | .error err => throw (gesture.name ++ ": " ++ err)
  | .ok action => return action.elim out fun action => out.set action gesture

/-- `parse_button_actions`; an empty object is valid and clears all. -/
def parseButtonActions (raw : Value) : Except String ButtonActions := do
  let d ← demand raw.obj? "button_actions must be an object"
  d.entries.foldlM parseGesture ButtonActions.empty

/-- `sanitize_button_actions`: unknown gestures and invalid actions are dropped. -/
def sanitizeButtonActions (raw : Value) : ButtonActions :=
  let action (gesture : Gesture) : Option ButtonAction := do
    let d ← raw.obj?
    let v ← d.get? (text gesture.name)
    (parseButtonAction v).toOption.join
  ⟨action .doublePress, action .triplePress, action .longPress⟩

/-! ### Settings -/

structure DeviceConfig where
  transportMode : Option TransportMode
  name : Option Text
  voice : Option Bool
  followUpMode : Option FollowUpMode
  outputSampleRate : Option ℤ
  bargeIn : Option Bool
  buttonActions : Option ButtonActions
  deriving DecidableEq

namespace DeviceConfig

def empty : DeviceConfig := ⟨none, none, none, none, none, none, none⟩

/-- The settings without an empty map of button actions. -/
def withoutEmptyActions (cfg : DeviceConfig) : DeviceConfig :=
  { cfg with buttonActions := cfg.buttonActions.filter (· ≠ .empty) }

end DeviceConfig

def knownFields : List Text :=
  ["transport_mode", "name", "voice", "follow_up_mode", "output_sample_rate", "barge_in",
    "button_actions"].map text

/-- A number is taken for a rate if it is positive, and cut to an integer. -/
def sanitizeRate : Value → Option ℤ
  | .int n => if 0 < n then some n else none
  | .float q => if 0 < q then some q.floor else none
  | _ => none

/-- `_sanitize_entry` -/
def sanitizeEntry (raw : Value) : DeviceConfig :=
  match raw.obj? with
  | none => .empty
  | some d =>
    { transportMode := (d.get? (text "transport_mode")).map fun v =>
        if v.str? = some (text "websocket") then .websocket else .webrtc
      name := (d.get? (text "name")).bind Value.str?
      voice := (d.get? (text "voice")).bind Value.bool?
      followUpMode := (d.get? (text "follow_up_mode")).map fun v =>
        (v.str?.bind FollowUpMode.ofText?).getD .auto
      outputSampleRate := (d.get? (text "output_sample_rate")).bind sanitizeRate
      bargeIn := (d.get? (text "barge_in")).map fun v => v.bool?.getD true
      buttonActions := ((d.get? (text "button_actions")).map sanitizeButtonActions).filter
        (· ≠ .empty) }

/-! ### The file -/

inductive File
  | missing
  | unreadable
  | json (v : Value)

structure ConfigError where
  field : String
  requirement : String
  deriving DecidableEq

/-- The check of one field, whose key is known. -/
def validField (key : Text) (value : Value) : Bool :=
  if key = text "transport_mode" then
    value.str? = some (text "websocket") || value.str? = some (text "webrtc")
  else if key = text "name" then value.str?.any displayName
  else if key = text "voice" || key = text "barge_in" then value.bool?.isSome
  else if key = text "follow_up_mode" then (value.str?.bind FollowUpMode.ofText?).isSome
  else if key = text "output_sample_rate" then value.int?.any (0 < ·)
  else if key = text "button_actions" then (parseButtonActions value).toOption.isSome
  else true

def fieldName (key : Text) : String := String.ofList (key.map fun c => Char.ofNat c.1)

def checkField (item : Text × Value) : Except ConfigError Unit :=
  refuse (!validField item.1 item.2)
    ⟨"devices.*." ++ fieldName item.1, "invalid device setting; see the device settings schema"⟩

def checkEntry (entry : Value) : Except ConfigError Unit := do
  let d ← demand (entry.obj?.filter fun d => d.keys.all (· ∈ knownFields))
    ⟨"devices.*", "expected an object of supported device settings"⟩
  d.entries.forM checkField

def sanitizeEntries (parsed : Dict Text Value) : Dict Text DeviceConfig :=
  parsed.map fun _ entry => sanitizeEntry entry

/-- `load_device_configs(strict=True)`, with the file as it leaves it. -/
def loadStrict : File → Except ConfigError (File × Dict Text DeviceConfig)
  | .missing => .ok (.json (.obj []), Dict.empty)
  | .unreadable => .error ⟨"$", "expected valid JSON with unique keys"⟩
  | .json v => do
    let parsed ← demand v.obj? ⟨"$", "expected an object keyed by device IDs"⟩
    parsed.values.forM checkEntry
    return (.json v, sanitizeEntries parsed)

/-- `load_device_configs`, which takes what it can. -/
def load : File → Dict Text DeviceConfig
  | .json v => v.obj?.elim Dict.empty sanitizeEntries
  | _ => Dict.empty

def Command.fields : Command → List (Text × Value)
  | .setVolume volume => [(text "command", .str (text "set_volume")),
      (text "volume", .int volume.1)]
  | .mute => [(text "command", .str (text "mute"))]
  | .unmute => [(text "command", .str (text "unmute"))]
  | .reboot => [(text "command", .str (text "reboot"))]

def ButtonAction.toValue : ButtonAction → Value
  | .prompt t => .obj [(text "kind", .str (text "prompt")), (text "text", .str t.1)]
  | .announce t => .obj [(text "kind", .str (text "announce")), (text "text", .str t.1)]
  | .command c => .obj ((text "kind", .str (text "command")) :: c.fields)
  | .webhook t => .obj [(text "kind", .str (text "webhook")), (text "webhook_id", .str t.1)]

/-- A field that is written when it is there. -/
def field (key : String) (v : Option Value) : List (Text × Value) :=
  v.toList.map fun v => (text key, v)

def ButtonActions.toValue (actions : ButtonActions) : Value :=
  .obj (field Gesture.doublePress.name (actions.doublePress.map ButtonAction.toValue) ++
    field Gesture.triplePress.name (actions.triplePress.map ButtonAction.toValue) ++
    field Gesture.longPress.name (actions.longPress.map ButtonAction.toValue))

def DeviceConfig.fields (cfg : DeviceConfig) : List (Text × Value) :=
  field "transport_mode" (cfg.transportMode.map fun m => .str m.value) ++
    field "name" (cfg.name.map .str) ++
    field "voice" (cfg.voice.map .bool) ++
    field "follow_up_mode" (cfg.followUpMode.map fun m => .str m.value) ++
    field "output_sample_rate" (cfg.outputSampleRate.map .int) ++
    field "barge_in" (cfg.bargeIn.map .bool) ++
    field "button_actions" (cfg.buttonActions.map ButtonActions.toValue)

def DeviceConfig.toValue (cfg : DeviceConfig) : Value := .obj cfg.fields

/-- `save_device_configs` -/
def save (configs : Dict Text DeviceConfig) : Value :=
  .obj (configs.entries.map fun e => (e.1, e.2.toValue))

end Vauxr.Devices
