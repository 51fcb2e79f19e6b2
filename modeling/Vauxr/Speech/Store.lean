import Mathlib
import Vauxr.Lib.ReadBack
import Vauxr.Speech.Catalog

/-!
The speech settings (`speech/store.py`): the document, its checks, what a device gets of it, and
the rewrites of the file.

The object keeps the fields of the document as it was read. A check that fails may come after the
fields have been taken over, as in the source. The file is what a parser hands over: what a write
puts there is what is read back of it.
-/

namespace Vauxr.Speech

open Lib

/-- The live settings: `self.backends`, `self.defaults` and `self.devices`. -/
structure SpeechStore where
  backends : Dict Text Backend
  defaults : Value
  devices : Value

structure Selection where
  stt : Backend
  tts : Backend
  voiceId : Text

structure VoiceSettings where
  mode : Value
  realtimeBackend : Text
  realtimeModel : Text
  realtimeVoice : Value

/-- `self.backends` of a list. -/
def byId (backends : List Backend) : Dict Text Backend :=
  backends.foldl (fun d b => d.set b.id b) Dict.empty

/-! ### Checks -/

def settingKeys : List Text :=
  ["stt_backend", "tts_backend", "voices", "mode", "realtime_backend", "realtime_voice"].map text

def requiredKeys : List Text := ["stt_backend", "tts_backend", "voices", "mode"].map text

def standard : Text := text "standard"

def realtime : Text := text "realtime"

namespace SpeechStore

/-- The backend a value names. -/
def backend? (s : SpeechStore) (v : Value) : Option Backend := v.str?.bind s.backends.get?

/-- A selection names a provider of its kind. -/
def checkReference (s : SpeechStore) (settings : Dict Text Value) (field : String)
    (key : String) (kind : Kind) : Except Error Unit :=
  match settings.get? (text key) with
  | none => .ok ()
  | some v => refuse (!(s.backend? v).any (·.kind = kind))
      (.config (field ++ "." ++ key) "must reference a provider ID of the matching kind")

def checkMode (settings : Dict Text Value) (field : String) : Except Error Unit :=
  match settings.get? (text "mode") with
  | none => .ok ()
  | some v => refuse (!(v.str? = some standard || v.str? = some realtime))
      (.config (field ++ ".mode") "expected standard or realtime")

def validVoice (s : SpeechStore) (item : Text × Value) : Bool :=
  (s.backends.get? item.1).any fun b => b.kind = .tts && item.2.str?.any (· ∈ b.voices)

def checkVoices (s : SpeechStore) (settings : Dict Text Value) (field : String) :
    Except Error Unit := do
  let voices ← demand ((settings.get? (text "voices")).getD (.obj [])).obj?
    (.config (field ++ ".voices") "expected a map of TTS provider IDs to voices")
  refuse (!voices.entries.all s.validVoice)
    (.config (field ++ ".voices") "each voice must belong to its TTS provider")

def checkRealtimeVoice (settings : Dict Text Value) (field : String) : Except Error Unit :=
  match settings.get? (text "realtime_voice") with
  | none => .ok ()
  | some v => refuse v.str?.isNone (.config (field ++ ".realtime_voice") "expected a voice string")

/-- The provider of the settings, if there is one. -/
def provider? (settings : Dict Text Value) : Option Value :=
  (settings.get? (text "realtime_backend")).filter Value.truthy

/-- `_validate_effective` -/
def validateEffective (s : SpeechStore) (settings : Dict Text Value) (field : String) :
    Except Error Unit := do
  let provider := provider? settings
  refuse ((settings.get? (text "mode")).bind Value.str? = some realtime && provider.isNone)
    (.config (field ++ ".realtime_backend") "realtime mode requires a registry provider ID")
  match provider with
  | none => return ()
  | some v =>
    let b ← demand (s.backend? v) .lookup
    refuse (!((settings.get? (text "realtime_voice")).bind Value.str?).any (· ∈ b.voices))
      (.config (field ++ ".realtime_voice") "must belong to the selected realtime provider")

/-- `_validate_settings`, of an object. -/
def validateFields (s : SpeechStore) (settings : Dict Text Value) (field : String)
    (override : Bool) : Except Error Unit := do
  refuse (!settings.keys.all (· ∈ settingKeys))
    (.config field "expected speech selection fields only")
  refuse (!override && !requiredKeys.all (· ∈ settings.keys))
    (.config field "requires stt_backend, tts_backend, voices and mode")
  s.checkReference settings field "stt_backend" .stt
  s.checkReference settings field "tts_backend" .tts
  s.checkReference settings field "realtime_backend" .realtime
  checkMode settings field
  s.checkVoices settings field
  checkRealtimeVoice settings field
  if override then return () else s.validateEffective settings field

/-- `_validate_settings`, with the object. -/
def validateSettings (s : SpeechStore) (settings : Value) (field : String) (override : Bool) :
    Except Error (Dict Text Value) := do
  let d ← demand settings.obj? (.config field "expected speech selection fields only")
  s.validateFields d field override
  return d

/-- The checks of one device. -/
def validateDevice (s : SpeechStore) (defaults : Dict Text Value) (settings : Value) :
    Except Error Unit := do
  let d ← s.validateSettings settings "devices.*" true
  s.validateEffective (defaults.update d) "devices.*"

/-- The checks of the fields that have been taken over. -/
def validate (s : SpeechStore) : Except Error Unit := do
  let defaults ← demand s.defaults.obj? (.config "defaults/devices" "expected objects")
  let devices ← demand s.devices.obj? (.config "defaults/devices" "expected objects")
  s.validateFields defaults "defaults" false
  devices.values.forM (s.validateDevice defaults)

/-- The providers, the defaults and the devices of a document. -/
def header (data : Value) : Except Error (Value × Value × Value) := do
  let message := "expected version 1, providers, defaults and devices"
  let d ← demand (data.obj?.filter fun d =>
    d.size = 4 && (["version", "providers", "defaults", "devices"].map text).all (· ∈ d.keys))
    (.config "$" message)
  refuse ((d.get? (text "version")).bind Value.int? ≠ some 1) (.config "$" message)
  let providers ← demand (d.get? (text "providers")) .lookup
  let defaults ← demand (d.get? (text "defaults")) .lookup
  let devices ← demand (d.get? (text "devices")) .lookup
  return (providers, defaults, devices)

/-- `_load`: the object as it is left, and whether the document is accepted. -/
def load (s : SpeechStore) (data : Value) : SpeechStore × Except Error Unit :=
  match header data with
  | .error e => (s, .error e)
  | .ok (providers, defaults, devices) =>
    match parseBackends providers with
    | .error e => (s, .error e)
    | .ok backends =>
      let s := ⟨byId backends, defaults, devices⟩
      (s, s.validate)

/-- The fields of an object that has not loaded anything. -/
def blank : SpeechStore := ⟨Dict.empty, .obj [], .obj []⟩

/-! ### What a device gets -/

/-- `self.devices.get(device_id, {})` -/
def override (s : SpeechStore) (device : Text) : Except Error (Dict Text Value) := do
  let devices ← demand s.devices.obj? .lookup
  demand ((devices.get? device).getD (.obj [])).obj? .lookup

/-- `self.backends[override.get(key, self.defaults[key])]` -/
def selected (s : SpeechStore) (defaults override : Dict Text Value) (key : String) :
    Except Error Backend := do
  let d ← demand (defaults.get? (text key)) .lookup
  demand (s.backend? ((override.get? (text key)).getD d)) .lookup

def resolve (s : SpeechStore) (device : Text) : Except Error Selection := do
  let override ← s.override device
  let defaults ← demand s.defaults.obj? .lookup
  let stt ← s.selected defaults override "stt_backend"
  let tts ← s.selected defaults override "tts_backend"
  refuse (stt.kind ≠ .stt || tts.kind ≠ .tts)
    (.value "Selected backend has incompatible speech kind")
  let overrideVoices ← demand ((override.get? (text "voices")).getD (.obj [])).obj? .lookup
  let defaultVoices ← demand ((defaults.get? (text "voices")).bind Value.obj?) .lookup
  let first ← demand tts.voices.head? .lookup
  let voice := (overrideVoices.get? tts.id).getD ((defaultVoices.get? tts.id).getD (.str first))
  let voice ← demand (voice.str?.filter (· ∈ tts.voices))
    (.value "Selected voice is no longer configured")
  return ⟨stt, tts, voice⟩

def voiceSettings (s : SpeechStore) (device : Text) : Except Error VoiceSettings := do
  let override ← s.override device
  let defaults ← demand s.defaults.obj? .lookup
  let settings := defaults.update override
  let id := (settings.get? (text "realtime_backend")).getD (.str [])
  refuse (!id.hashable) .lookup
  let provider := s.backend? id
  let mode ← demand (settings.get? (text "mode")) .lookup
  return ⟨mode, (provider.map Backend.id).getD [], (provider.map Backend.model).getD [],
    (settings.get? (text "realtime_voice")).getD (.str [])⟩

/-! ### Rewriting the file -/

/-- One voice of a patch. -/
def changeVoice (device : Bool) (voices : Dict Text Value) (item : Text × Value) :
    Dict Text Value :=
  match item.2, device with
  | .null, true => voices.erase item.1
  | voice, _ => voices.set item.1 voice

/-- One field of a patch. -/
def changeField (device : Bool) (target : Dict Text Value) (item : Text × Value) :
    Except Error (Dict Text Value) := do
  refuse (item.1 ∉ settingKeys) (.value "Unknown speech selection field")
  match item.2, device with
  | .null, true => return target.erase item.1
  | value, _ =>
    if item.1 = text "voices" then
      let patch ← demand value.obj? (.value "voices must map provider IDs to voice IDs")
      let voices ← demand ((target.get? (text "voices")).getD (.obj [])).obj? .lookup
      return target.set item.1 (.obj (patch.entries.foldl (changeVoice device) voices).entries)
    else return target.set item.1 value

/-- The defaults and the devices of the candidate with the patch applied. -/
def applyPatch (candidate : SpeechStore) (patch : Dict Text Value) :
    Option Text → Except Error (Value × Value)
  | none => do
    let target ← demand candidate.defaults.obj? .lookup
    let target ← patch.entries.foldlM (changeField false) target
    return (.obj target.entries, candidate.devices)
  | some device => do
    let devices ← demand candidate.devices.obj? .lookup
    let target ← candidate.override device
    let target ← patch.entries.foldlM (changeField true) target
    let devices := if target.size = 0 then devices.erase device
      else devices.set device (.obj target.entries)
    return (candidate.defaults, .obj devices.entries)

/-- `change`, of `update`: the document with the patch applied, if a candidate accepts it. -/
def change (patch : Dict Text Value) (device : Option Text) (data : Value) :
    Except Error Value := do
  let d ← demand data.obj? .lookup
  let (candidate, loaded) := blank.load data
  loaded
  let (defaults, devices) ← candidate.applyPatch patch device
  let result := Value.obj ((d.set (text "defaults") defaults).set (text "devices") devices).entries
  (candidate.load result).2
  return result

end SpeechStore

/-- Where a rewrite fails: before the file is read, before the new file is renamed into place, or
after. -/
inductive Fault
  | none | lock | before | after
  deriving DecidableEq

/-- `update_json`: the new file, and what it returns or raises. -/
def updateJson (file : Option Value) (fault : Fault) (change : Value → Except Error Value) :
    Option Value × Except Error Value :=
  if fault = .lock then (file, .error .os)
  else
    match (file.getD (.obj [])).obj? with
    | none => (file, .error (.config "$" "expected an object"))
    | some _ =>
      match change (file.getD (.obj [])) with
      | .error e => (file, .error e)
      | .ok result =>
        if Value.equal result (file.getD (.obj [])) && file.isSome then (file, .ok result)
        else
          match fault with
          | .before => (file, .error .os)
          | .after => (some result.readBack, .error .os)
          | _ => (some result.readBack, .ok result)

/-- The file and the object that stands for it. -/
structure Files where
  file : Option Value
  live : SpeechStore

namespace Files

/-- `update` -/
def update (s : Files) (fault : Fault) (patch : Value) (device : Option Text) :
    Files × Except Error Unit :=
  match patch.obj? with
  | none => (s, .error (.config "selection" "expected a speech selection object"))
  | some patch =>
    match updateJson s.file fault (SpeechStore.change patch device) with
    | (file, .ok data) =>
      let (live, loaded) := s.live.load data
      (⟨file, live⟩, loaded)
    | (file, .error .os) =>
      match file with
      | none => (⟨file, s.live⟩, .error (.config "$" "configuration must be readable"))
      | some data =>
        let (live, loaded) := s.live.load data
        (⟨file, live⟩, loaded.bind fun _ => .error .os)
    | (file, .error e) => (⟨file, s.live⟩, .error e)

/-- The document of a first run. -/
def initial (backends : List Backend) : Value :=
  let first (kind : Kind) : Option Backend := backends.find? (·.kind = kind)
  let id (kind : Kind) : Value := ((first kind).map fun b => Value.str b.id).getD .null
  let voice (b : Backend) : Value := .str (b.voices.headD [])
  let voices := (backends.filter (·.kind = .tts)).foldl (fun d b => d.set b.id (voice b)) Dict.empty
  let defaults := [(text "mode", Value.str standard), (text "stt_backend", id .stt),
    (text "tts_backend", id .tts), (text "voices", .obj voices.entries)]
  let extra := match first .realtime with
    | none => []
    | some b => [(text "realtime_backend", .str b.id), (text "realtime_voice", voice b)]
  .obj [(text "version", .int 1), (text "providers", .arr (backends.map Backend.toValue)),
    (text "defaults", .obj (defaults ++ extra)), (text "devices", .obj [])]

/-- The constructor: the settings of the file, or of the shipped backends where there is none. -/
def create (file : Option Value) (backends : List Backend) (fault : Fault) :
    Option Value × Except Error SpeechStore :=
  match file with
  | some data =>
    let (live, loaded) := SpeechStore.blank.load data
    (file, loaded.map fun _ => live)
  | none =>
    if backends.all validateBackend then
      let data := (initial backends).readBack
      match SpeechStore.blank.load data with
      | (_, .error e) => (none, .error e)
      | (live, .ok _) =>
        match updateJson none fault fun _ => .ok data with
        | (file, .error e) => (file, .error e)
        | (file, .ok data) =>
          let (live, loaded) := live.load data
          (file, loaded.map fun _ => live)
    else (none, .error (.value "Invalid speech backend"))

/-- The states of a process that has opened its store and then updated it, if the updates met a
condition. -/
inductive Reachable (condition : Value → Option Text → Prop) : Files → Prop
  | start {file : Option Value} {backends : List Backend} {fault : Fault} {s : Files}
      (hread : ∀ data, file = some data → data.Plain)
      (h : create file backends fault = (s.file, .ok s.live)) : Reachable condition s
  | update {s : Files} (h : Reachable condition s) (fault : Fault) {patch : Value}
      {device : Option Text} (hc : condition patch device) :
      Reachable condition (s.update fault patch device).1

/-- All texts of an update are read back as they are. -/
def Clear (patch : Value) (device : Option Text) : Prop :=
  patch.Plain ∧ ∀ d, device = some d → d.Plain

end Files

/-! ### What the checks promise -/

lemma mem_of_byId {backends : List Backend} {id : Text} {b : Backend}
    (h : (byId backends).get? id = some b) : b ∈ backends ∧ b.id = id := by
  have key : ∀ (l : List Backend) (d : Dict Text Backend),
      (l.foldl (fun d b => d.set b.id b) d).get? id = some b →
        (b ∈ l ∧ b.id = id) ∨ d.get? id = some b := by
    intro l
    induction l with
    | nil => exact fun d h => .inr h
    | cons b' l ih =>
      intro d h
      rw [List.foldl_cons] at h
      rcases ih _ h with ⟨hmem, hid⟩ | h
      · exact .inl ⟨List.mem_cons_of_mem _ hmem, hid⟩
      · rw [Dict.get?_set] at h
        split at h
        next hid =>
          cases h
          exact .inl ⟨List.mem_cons_self, hid⟩
        next => exact .inr h
  rcases key backends Dict.empty h with h | h
  · exact h
  · cases h

namespace SpeechStore

variable {s : SpeechStore} {settings : Dict Text Value} {field : String}

/-- Every backend is one that the catalog takes. -/
def Configured (s : SpeechStore) : Prop :=
  ∀ id b, s.backends.get? id = some b → b.id = id ∧ validateBackend b = true

/-- A selection names a backend of its kind. -/
def Refers (s : SpeechStore) (settings : Dict Text Value) (key : String) (kind : Kind) : Prop :=
  ∀ v, settings.get? (text key) = some v →
    ∃ id b, v = .str id ∧ s.backends.get? id = some b ∧ b.kind = kind

/-- What the checks of the fields promise. -/
structure FieldsValid (s : SpeechStore) (settings : Dict Text Value) : Prop where
  stt : s.Refers settings "stt_backend" .stt
  tts : s.Refers settings "tts_backend" .tts
  realtime : s.Refers settings "realtime_backend" .realtime
  mode : ∀ v, settings.get? (text "mode") = some v →
    v = .str standard ∨ v = .str Speech.realtime
  voices : ∃ voices, ((settings.get? (text "voices")).getD (.obj [])).obj? = some voices ∧
    ∀ id v, voices.get? id = some v → ∃ b t, s.backends.get? id = some b ∧ v = .str t ∧ t ∈ b.voices
  realtimeVoice : ∀ v, settings.get? (text "realtime_voice") = some v → ∃ t, v = .str t

/-- What the check of the effective settings promises. -/
structure EffectiveValid (s : SpeechStore) (settings : Dict Text Value) : Prop where
  provider : settings.get? (text "mode") = some (.str Speech.realtime) →
    (provider? settings).isSome
  voice : ∀ v, provider? settings = some v →
    ∃ id b t, v = .str id ∧ s.backends.get? id = some b ∧
      settings.get? (text "realtime_voice") = some (.str t) ∧ t ∈ b.voices

lemma str?_eq_some {v : Value} {t : Text} (h : v.str? = some t) : v = .str t := by
  cases v <;> simp [Value.str?] at h
  rw [h]

lemma backend?_eq_some {v : Value} {b : Backend} (h : s.backend? v = some b) :
    ∃ id, v = .str id ∧ s.backends.get? id = some b := by
  obtain ⟨id, hid, hb⟩ := Option.bind_eq_some_iff.mp h
  exact ⟨id, str?_eq_some hid, hb⟩

lemma checkReference_ok {key : String} {kind : Kind}
    (h : s.checkReference settings field key kind = .ok ()) : s.Refers settings key kind := by
  intro v hv
  unfold checkReference at h
  rw [hv] at h
  simp only [refuse_eq_ok, Bool.not_eq_false', Option.any_eq_true, decide_eq_true_eq] at h
  obtain ⟨b, hb, hkind⟩ := h
  obtain ⟨id, rfl, hget⟩ := backend?_eq_some hb
  exact ⟨id, b, rfl, hget, hkind⟩

lemma checkMode_ok (h : checkMode settings field = .ok ()) (v : Value)
    (hv : settings.get? (text "mode") = some v) :
    v = .str standard ∨ v = .str Speech.realtime := by
  unfold checkMode at h
  rw [hv] at h
  simp only [refuse_eq_ok, Bool.not_eq_false', Bool.or_eq_true, decide_eq_true_eq] at h
  exact h.imp str?_eq_some str?_eq_some

lemma checkVoices_ok (h : s.checkVoices settings field = .ok ()) :
    ∃ voices, ((settings.get? (text "voices")).getD (.obj [])).obj? = some voices ∧
      ∀ id v, voices.get? id = some v →
        ∃ b t, s.backends.get? id = some b ∧ v = .str t ∧ t ∈ b.voices := by
  simp only [checkVoices, bind_eq_ok, demand_eq_ok, refuse_eq_ok, Bool.not_eq_false',
    List.all_eq_true] at h
  obtain ⟨voices, hvoices, hall⟩ := h
  refine ⟨voices, hvoices, fun id v hv => ?_⟩
  have hvalid := hall (id, v) (Dict.mem_entries.mpr hv)
  simp only [validVoice, Option.any_eq_true, Bool.and_eq_true, decide_eq_true_eq] at hvalid
  obtain ⟨b, hb, -, t, ht, hmem⟩ := hvalid
  exact ⟨b, t, hb, str?_eq_some ht, hmem⟩

lemma checkRealtimeVoice_ok (h : checkRealtimeVoice settings field = .ok ()) (v : Value)
    (hv : settings.get? (text "realtime_voice") = some v) : ∃ t, v = .str t := by
  unfold checkRealtimeVoice at h
  rw [hv] at h
  simp only [refuse_eq_ok, Option.isNone_eq_false_iff] at h
  obtain ⟨t, ht⟩ := Option.isSome_iff_exists.mp h
  exact ⟨t, str?_eq_some ht⟩

lemma validateEffective_ok (h : s.validateEffective settings field = .ok ()) :
    s.EffectiveValid settings := by
  simp only [validateEffective, bind_eq_ok, refuse_eq_ok] at h
  obtain ⟨_, hmode, h⟩ := h
  constructor
  · intro hrealtime
    rw [hrealtime] at hmode
    simpa [Value.str?] using hmode
  · intro v hv
    rw [hv] at h
    simp only [bind_eq_ok, demand_eq_ok, refuse_eq_ok, Bool.not_eq_false', Option.any_eq_true,
      decide_eq_true_eq] at h
    obtain ⟨b, hb, t, ht, hmem⟩ := h
    obtain ⟨id, rfl, hget⟩ := backend?_eq_some hb
    obtain ⟨v, hvoice, hstr⟩ := Option.bind_eq_some_iff.mp ht
    rw [str?_eq_some hstr] at hvoice
    exact ⟨id, b, t, rfl, hget, hvoice, hmem⟩

lemma validateFields_ok {override : Bool}
    (h : s.validateFields settings field override = .ok ()) :
    s.FieldsValid settings ∧ (override = false →
      (∀ key ∈ requiredKeys, key ∈ settings.keys) ∧ s.EffectiveValid settings) := by
  simp only [validateFields, bind_eq_ok, refuse_eq_ok] at h
  obtain ⟨_, -, _, hrequired, _, hstt, _, htts, _, hrealtime, _, hmode, _, hvoices, _, hvoice, h⟩ := h
  refine ⟨⟨checkReference_ok hstt, checkReference_ok htts, checkReference_ok hrealtime,
    checkMode_ok hmode, checkVoices_ok hvoices, checkRealtimeVoice_ok hvoice⟩, ?_⟩
  rintro rfl
  simp only [Bool.not_false, Bool.true_and, Bool.not_eq_false', List.all_eq_true,
    decide_eq_true_eq] at hrequired
  simp only [Bool.false_eq_true, if_false] at h
  exact ⟨hrequired, validateEffective_ok h⟩

/-- What an accepted document promises: the defaults hold every selection, and the settings of a
device, over the defaults, are valid as a whole. -/
structure Accepted (s : SpeechStore) (defaults devices : Dict Text Value) : Prop where
  configured : s.Configured
  defaults_obj : s.defaults.obj? = some defaults
  devices_obj : s.devices.obj? = some devices
  required : ∀ key ∈ requiredKeys, key ∈ defaults.keys
  fields : s.FieldsValid defaults
  effective : s.EffectiveValid defaults
  device : ∀ id v, devices.get? id = some v →
    ∃ settings, v.obj? = some settings ∧ s.FieldsValid settings ∧
      s.EffectiveValid (defaults.update settings)

lemma load_ok {s s' : SpeechStore} {data : Value} (h : s.load data = (s', .ok ())) :
    ∃ defaults devices, s'.Accepted defaults devices := by
  unfold load at h
  split at h
  next => cases h
  next providers defaultsValue devicesValue _ =>
    split at h
    next => cases h
    next backends hbackends =>
      obtain ⟨rfl, hvalid⟩ := Prod.mk.inj h
      simp only [validate, bind_eq_ok, demand_eq_ok] at hvalid
      obtain ⟨defaults, hdefaults, devices, hdevices, _, hfields, hall⟩ := hvalid
      obtain ⟨hf, hd⟩ := validateFields_ok hfields
      obtain ⟨hrequired, heffective⟩ := hd rfl
      refine ⟨defaults, devices, ?_, hdefaults, hdevices, hrequired, hf, heffective, ?_⟩
      · intro id b hb
        obtain ⟨hmem, hid⟩ := mem_of_byId hb
        exact ⟨hid, (parseBackends_spec hbackends).1 b hmem⟩
      · intro id v hv
        have hdevice := forM_eq_ok.mp hall v (Dict.get?_mem_values hv)
        simp only [validateDevice, validateSettings, bind_eq_ok, demand_eq_ok] at hdevice
        obtain ⟨d, ⟨d', hobj, _, hdf, hd⟩, heff⟩ := hdevice
        cases hd
        exact ⟨d, hobj, (validateFields_ok hdf).1, validateEffective_ok heff⟩

lemma obj?_empty : (Value.obj []).obj? = some Dict.empty := Dict.ofEntries?_entries Dict.empty

section Accepted

variable {defaults devices : Dict Text Value}

lemma Accepted.override (h : s.Accepted defaults devices) (device : Text) :
    ∃ override, s.override device = .ok override ∧ s.FieldsValid override ∧
      s.EffectiveValid (defaults.update override) := by
  unfold SpeechStore.override
  rw [h.devices_obj]
  cases hv : devices.get? device with
  | none =>
    refine ⟨Dict.empty, ?_, ?_, h.effective⟩
    · simp only [bind_eq_ok, demand_eq_ok, Option.some.injEq, exists_eq_left', hv, Option.getD_none]
      exact obj?_empty
    · constructor
      case voices => exact ⟨Dict.empty, obj?_empty, fun _ _ hv => by cases hv⟩
      all_goals
        intro v hv
        cases hv
  | some v =>
    obtain ⟨settings, hobj, hfields, heffective⟩ := h.device device v hv
    refine ⟨settings, ?_, hfields, heffective⟩
    simp only [bind_eq_ok, demand_eq_ok, Option.some.injEq, exists_eq_left', hv, Option.getD_some]
    exact hobj

lemma Accepted.required? (h : s.Accepted defaults devices) (key : String)
    (hkey : text key ∈ requiredKeys) : ∃ v, defaults.get? (text key) = some v :=
  Dict.mem_keys.mp (h.required _ hkey)

/-- A selection finds a backend of its kind, in the override or in the defaults. -/
lemma Accepted.selected (h : s.Accepted defaults devices) {override : Dict Text Value}
    (key : String) {kind : Kind} (hkey : text key ∈ requiredKeys)
    (hd : s.Refers defaults key kind) (ho : s.Refers override key kind) :
    ∃ b, s.selected defaults override key = .ok b ∧ b.kind = kind ∧
      s.backends.get? b.id = some b := by
  obtain ⟨d, hget⟩ := h.required? key hkey
  have hrefers : ∃ id b, (override.get? (text key)).getD d = .str id ∧
      s.backends.get? id = some b ∧ b.kind = kind := by
    cases hov : override.get? (text key) with
    | none => exact hd d hget
    | some v => exact ho v hov
  obtain ⟨id, b, hv, hb, hkind⟩ := hrefers
  refine ⟨b, ?_, hkind, ?_⟩
  · simp only [SpeechStore.selected, bind_eq_ok, demand_eq_ok, hget, Option.some.injEq,
      exists_eq_left', hv]
    exact hb
  · rw [(h.configured id b hb).1]
    exact hb

/-- What a device gets: a backend of each kind and a voice of the one that speaks. -/
lemma Accepted.resolve (h : s.Accepted defaults devices) (device : Text) :
    ∃ sel, s.resolve device = .ok sel ∧ sel.stt.kind = .stt ∧ sel.tts.kind = .tts ∧
      s.backends.get? sel.stt.id = some sel.stt ∧ s.backends.get? sel.tts.id = some sel.tts ∧
      sel.voiceId ∈ sel.tts.voices := by
  obtain ⟨override, hoverride, hfields, -⟩ := h.override device
  obtain ⟨stt, hstt, hsttKind, hsttId⟩ :=
    h.selected "stt_backend" (by decide) h.fields.stt hfields.stt
  obtain ⟨tts, htts, httsKind, httsId⟩ :=
    h.selected "tts_backend" (by decide) h.fields.tts hfields.tts
  obtain ⟨overrideVoices, hov, hovValid⟩ := hfields.voices
  obtain ⟨defaultVoices, hdv, hdvValid⟩ := h.fields.voices
  obtain ⟨raw, hraw⟩ := h.required? "voices" (by decide)
  rw [hraw, Option.getD_some] at hdv
  have hvoices : tts.voices ≠ [] :=
    voices_ne_nil (h.configured tts.id tts httsId).2 (by rw [httsKind]; decide)
  obtain ⟨first, rest, hlist⟩ := List.exists_cons_of_ne_nil hvoices
  have hvoice : ∃ t, (overrideVoices.get? tts.id).getD
      ((defaultVoices.get? tts.id).getD (.str first)) = .str t ∧ t ∈ tts.voices := by
    cases hget : overrideVoices.get? tts.id with
    | some v =>
      obtain ⟨b, t, hb, rfl, hmem⟩ := hovValid _ v hget
      rw [httsId] at hb
      cases hb
      exact ⟨t, rfl, hmem⟩
    | none =>
      cases hget' : defaultVoices.get? tts.id with
      | some v =>
        obtain ⟨b, t, hb, rfl, hmem⟩ := hdvValid _ v hget'
        rw [httsId] at hb
        cases hb
        exact ⟨t, rfl, hmem⟩
      | none =>
        refine ⟨first, rfl, ?_⟩
        rw [hlist]
        exact List.mem_cons_self
  obtain ⟨t, ht, hmem⟩ := hvoice
  refine ⟨⟨stt, tts, t⟩, ?_, hsttKind, httsKind, hsttId, httsId, hmem⟩
  unfold SpeechStore.resolve
  simp only [bind_eq_ok, demand_eq_ok, refuse_eq_ok]
  refine ⟨override, hoverride, defaults, h.defaults_obj, stt, hstt, tts, htts, (), ?_,
    overrideVoices, hov, defaultVoices, ?_, first, ?_, t, ?_, rfl⟩
  · simp [hsttKind, httsKind]
  · rw [hraw]
    exact hdv
  · rw [hlist]
    rfl
  · rw [ht]
    exact Option.filter_eq_some_iff.mpr ⟨rfl, by simpa using hmem⟩

/-- The mode of a device, with a provider and one of its voices where it is the realtime one. -/
lemma Accepted.voiceSettings (h : s.Accepted defaults devices) (device : Text) :
    ∃ v, s.voiceSettings device = .ok v ∧
      (v.mode = .str standard ∨ v.mode = .str Speech.realtime) ∧
      (v.mode = .str Speech.realtime → ∃ b t, s.backends.get? v.realtimeBackend = some b ∧
        b.kind = .realtime ∧ v.realtimeVoice = .str t ∧ t ∈ b.voices) := by
  obtain ⟨override, hoverride, hfields, heffective⟩ := h.override device
  obtain ⟨d, hd⟩ := h.required? "mode" (by decide)
  -- what holds of the fields of both holds of the fields of the one laid over the other
  have hrefers : s.Refers (defaults.update override) "realtime_backend" .realtime := by
    intro v hv
    rw [Dict.get?_update] at hv
    cases hget : override.get? (text "realtime_backend") with
    | some v' =>
      rw [hget, Option.some_or] at hv
      cases hv
      exact hfields.realtime _ hget
    | none =>
      rw [hget, Option.none_or] at hv
      exact h.fields.realtime v hv
  obtain ⟨mode, hmode, hmodes⟩ : ∃ mode, (defaults.update override).get? (text "mode") = some mode ∧
      (mode = .str standard ∨ mode = .str Speech.realtime) := by
    rw [Dict.get?_update]
    cases hget : override.get? (text "mode") with
    | some v => exact ⟨v, rfl, hfields.mode v hget⟩
    | none => exact ⟨d, by rw [Option.none_or, hd], h.fields.mode d hd⟩
  have hid : (((defaults.update override).get? (text "realtime_backend")).getD
      (.str [])).hashable = true := by
    cases hget : (defaults.update override).get? (text "realtime_backend") with
    | none => rfl
    | some v =>
      obtain ⟨id, -, rfl, -⟩ := hrefers v hget
      rfl
  obtain ⟨v, hok, hmodeEq, hbackend, hvoiceEq⟩ : ∃ v, s.voiceSettings device = .ok v ∧
      v.mode = mode ∧ v.realtimeBackend = ((s.backend? (((defaults.update override).get?
        (text "realtime_backend")).getD (.str []))).map Backend.id).getD [] ∧
      v.realtimeVoice = ((defaults.update override).get? (text "realtime_voice")).getD
        (.str []) := by
    unfold SpeechStore.voiceSettings
    simp only [bind_eq_ok, demand_eq_ok, refuse_eq_ok]
    exact ⟨_, ⟨override, hoverride, defaults, h.defaults_obj, (), by rw [hid]; rfl, mode, hmode,
      rfl⟩, rfl, rfl, rfl⟩
  refine ⟨v, hok, ?_, fun hrealtime => ?_⟩
  · rw [hmodeEq]
    exact hmodes
  · rw [hmodeEq] at hrealtime
    rw [hrealtime] at hmode
    obtain ⟨p, hp⟩ := Option.isSome_iff_exists.mp (heffective.provider hmode)
    obtain ⟨id, b, t, rfl, hb, hvoice, hmem⟩ := heffective.voice p hp
    have hget := (Option.filter_eq_some_iff.mp hp).1
    obtain ⟨id', b', hsame, hb', hkind⟩ := hrefers _ hget
    cases hsame
    rw [hb] at hb'
    cases hb'
    have hprovider : s.backend? (((defaults.update override).get?
        (text "realtime_backend")).getD (.str [])) = some b := by
      rw [hget]
      exact hb
    refine ⟨b, t, ?_, hkind, ?_, hmem⟩
    · rw [hbackend, hprovider, Option.map_some, Option.getD_some, (h.configured id b hb).1]
      exact hb
    · rw [hvoiceEq, hvoice, Option.getD_some]

end Accepted

/-- What a document is loaded into does not show in what comes of it. -/
lemma load_blank {s s' : SpeechStore} {data : Value} (h : s.load data = (s', .ok ())) :
    ∀ t : SpeechStore, t.load data = (s', .ok ()) := by
  intro t
  unfold load at h ⊢
  split at h
  next => cases h
  next =>
    split at h
    next => cases h
    next => exact h

lemma load_obj {s s' : SpeechStore} {data : Value} (h : s.load data = (s', .ok ())) :
    ∃ d, data.obj? = some d := by
  unfold load at h
  split at h
  next => cases h
  next hheader =>
    simp only [header, bind_eq_ok, demand_eq_ok] at hheader
    obtain ⟨d, hd, -⟩ := hheader
    exact ⟨d, (Option.filter_eq_some_iff.mp hd).1⟩

/-- An accepted document, with the fields that the object takes over. -/
lemma load_fields {data : Value} {live : SpeechStore} (h : blank.load data = (live, .ok ())) :
    ∃ f devices : Dict Text Value, data = .obj f.entries ∧
      f.get? (text "defaults") = some live.defaults ∧
      f.get? (text "devices") = some (.obj devices.entries) ∧
      live.devices = .obj devices.entries := by
  obtain ⟨defaults, devices, haccepted⟩ := load_ok h
  have hdevices := Value.obj?_eq_some haccepted.devices_obj
  unfold load at h
  split at h
  next => cases h
  next hheader =>
    simp only [header, bind_eq_ok, demand_eq_ok] at hheader
    obtain ⟨f, hf, _, -, _, -, defaultsValue, hdefaults, devicesValue, hdev, hheader⟩ := hheader
    cases hheader
    split at h
    next => cases h
    next =>
      obtain ⟨hlive, -⟩ := Prod.mk.inj h
      refine ⟨f, devices, Value.obj?_eq_some (Option.filter_eq_some_iff.mp hf).1, ?_, ?_, hdevices⟩
      · rw [hdefaults, ← hlive]
      · rw [hdev, ← hdevices, ← hlive]

/-! ### Texts that are read back as they are -/

lemma load_plain {data : Value} {live : SpeechStore} (h : blank.load data = (live, .ok ()))
    (hdata : data.Plain) : live.defaults.Plain ∧ live.devices.Plain := by
  obtain ⟨f, devices, rfl, hdefaults, hdevices, hlive⟩ := load_fields h
  have hf := Dict.Plain.obj_iff.mp hdata
  rw [hlive]
  exact ⟨(hf _ _ hdefaults).2, (hf _ _ hdevices).2⟩

lemma plain_getD {d e : Dict Text Value} {k : Text} (hd : d.Plain)
    (h : ((d.get? k).getD (.obj [])).obj? = some e) : e.Plain := by
  cases hget : d.get? k with
  | none =>
    rw [hget, Option.getD_none, obj?_empty] at h
    cases h
    intro k' v' hv
    cases hv
  | some v =>
    rw [hget, Option.getD_some] at h
    exact Dict.Plain.of_obj (hd k v hget).2 h

lemma changeVoice_plain {onDevice : Bool} {l : List (Text × Value)}
    (hl : ∀ e ∈ l, e.1.Plain ∧ e.2.Plain) {voices : Dict Text Value} (h : voices.Plain) :
    (l.foldl (changeVoice onDevice) voices).Plain := by
  induction l generalizing voices with
  | nil => exact h
  | cons e l ih =>
    rw [List.forall_mem_cons] at hl
    refine ih hl.2 ?_
    unfold changeVoice
    split
    · exact h.erase
    · exact h.set hl.1.1 hl.1.2

lemma changeField_plain {onDevice : Bool} {target target' : Dict Text Value} {item : Text × Value}
    (h : target.Plain) (hitem : item.1.Plain ∧ item.2.Plain)
    (hok : changeField onDevice target item = .ok target') : target'.Plain := by
  obtain ⟨u, -, hok⟩ := bind_eq_ok.mp hok
  split at hok
  · cases hok
    exact h.erase
  · split at hok
    next hvoices =>
      simp only [bind_eq_ok, demand_eq_ok] at hok
      obtain ⟨patch, hpatch, voices, hv, hok⟩ := hok
      cases hok
      refine h.set hitem.1 (Dict.Plain.obj_iff.mpr (changeVoice_plain ?_ (plain_getD h hv)))
      intro e he
      exact Dict.Plain.of_obj hitem.2 hpatch e.1 e.2 (Dict.mem_entries.mp he)
    · cases hok
      exact h.set hitem.1 hitem.2

lemma changeFields_plain {onDevice : Bool} {l : List (Text × Value)}
    (hl : ∀ e ∈ l, e.1.Plain ∧ e.2.Plain) {target target' : Dict Text Value} (h : target.Plain)
    (hok : l.foldlM (changeField onDevice) target = .ok target') : target'.Plain := by
  induction l generalizing target with
  | nil =>
    cases hok
    exact h
  | cons e l ih =>
    rw [List.forall_mem_cons] at hl
    rw [List.foldlM_cons] at hok
    obtain ⟨next, hnext, hok⟩ := bind_eq_ok.mp hok
    exact ih hl.2 (changeField_plain h hl.1 hnext) hok

lemma applyPatch_plain {candidate : SpeechStore} {patch : Dict Text Value} {device : Option Text}
    {defaults devices : Value} (hcandidate : candidate.defaults.Plain ∧ candidate.devices.Plain)
    (hpatch : patch.Plain) (hdevice : ∀ d, device = some d → d.Plain)
    (hok : candidate.applyPatch patch device = .ok (defaults, devices)) :
    defaults.Plain ∧ devices.Plain := by
  have hentries : ∀ e ∈ patch.entries, e.1.Plain ∧ e.2.Plain :=
    fun e he => hpatch e.1 e.2 (Dict.mem_entries.mp he)
  cases device with
  | none =>
    simp only [applyPatch, bind_eq_ok, demand_eq_ok] at hok
    obtain ⟨target, htarget, target', hfold, hok⟩ := hok
    cases hok
    exact ⟨Dict.Plain.obj_iff.mpr (changeFields_plain hentries
      (Dict.Plain.of_obj hcandidate.1 htarget) hfold), hcandidate.2⟩
  | some device =>
    simp only [applyPatch, override, bind_eq_ok, demand_eq_ok] at hok
    obtain ⟨devices', hdevices, target, ⟨devices'', hsame, htarget⟩, target', hfold, hok⟩ := hok
    rw [hdevices] at hsame
    cases hsame
    cases hok
    have hplain := Dict.Plain.of_obj hcandidate.2 hdevices
    refine ⟨hcandidate.1, Dict.Plain.obj_iff.mpr ?_⟩
    split
    · exact hplain.erase
    · exact hplain.set (hdevice device rfl) (Dict.Plain.obj_iff.mpr
        (changeFields_plain hentries (plain_getD hplain htarget) hfold))

/-- A change whose texts are read back as they are returns a document of such texts. -/
lemma change_plain {patch : Dict Text Value} {device : Option Text} {data result : Value}
    (hpatch : patch.Plain) (hdevice : ∀ d, device = some d → d.Plain) (hdata : data.Plain)
    (h : change patch device data = .ok result) : result.Plain := by
  simp only [change, bind_eq_ok, demand_eq_ok] at h
  obtain ⟨d, hd, u, hload, ⟨defaults, devices⟩, happly, _, _, h⟩ := h
  cases h
  have hcandidate := load_plain (Prod.ext rfl hload) hdata
  obtain ⟨hdefaults, hdevices⟩ := applyPatch_plain hcandidate hpatch hdevice happly
  exact Dict.Plain.obj_iff.mpr (((Dict.Plain.of_obj hdata hd).set (plain_text _) hdefaults).set
    (plain_text _) hdevices)

/-- A candidate has accepted what a change returns. -/
lemma change_ok {patch : Dict Text Value} {device : Option Text} {data result : Value}
    (h : change patch device data = .ok result) : ∃ live, blank.load result = (live, .ok ()) := by
  simp only [change, bind_eq_ok] at h
  obtain ⟨_, -, _, -, ⟨defaults, devices⟩, -, u, hload, h⟩ := h
  cases h
  exact ⟨_, load_blank (Prod.ext rfl hload) blank⟩

end SpeechStore

/-! ### Updates -/

section Updates

variable {file file' : Option Value} {fault : Fault} {change : Value → Except Error Value}

/-- What a rewrite of a file comes to: the file as it was or as the change makes it. -/
lemma updateJson_cases {data : Value} {r : Except Error Value} (hobj : data.obj?.isSome)
    (h : updateJson (some data) fault change = (file', r)) :
    (file' = some data ∧ ∃ e, r = .error e) ∨
      (∃ result, change data = .ok result ∧ r = .ok result ∧
        (file' = some data ∧ Value.equal result data = true ∨ file' = some result.readBack)) ∨
      ∃ result, change data = .ok result ∧ r = .error .os ∧ file' = some result.readBack ∧
        fault = .after := by
  obtain ⟨d, hd⟩ := Option.isSome_iff_exists.mp hobj
  unfold updateJson at h
  split at h
  · obtain ⟨rfl, rfl⟩ := Prod.mk.inj h
    exact .inl ⟨rfl, _, rfl⟩
  · simp only [Option.getD_some, hd] at h
    split at h
    next e _ =>
      obtain ⟨rfl, rfl⟩ := Prod.mk.inj h
      exact .inl ⟨rfl, _, rfl⟩
    next result hresult =>
      split at h
      next hequal =>
        obtain ⟨rfl, rfl⟩ := Prod.mk.inj h
        simp only [Bool.and_eq_true] at hequal
        exact .inr (.inl ⟨result, hresult, rfl, .inl ⟨rfl, hequal.1⟩⟩)
      next =>
        split at h
        · obtain ⟨rfl, rfl⟩ := Prod.mk.inj h
          exact .inl ⟨rfl, _, rfl⟩
        · obtain ⟨rfl, rfl⟩ := Prod.mk.inj h
          exact .inr (.inr ⟨result, hresult, rfl, rfl, rfl⟩)
        · obtain ⟨rfl, rfl⟩ := Prod.mk.inj h
          exact .inr (.inl ⟨result, hresult, rfl, .inr rfl⟩)

end Updates

namespace Files

/-- The object is what loading the document of the file gives. -/
def Live (s : Files) : Prop :=
  ∃ data, s.file = some data ∧ (∃ live, SpeechStore.blank.load data = (live, .ok ())) ∧
    ∃ d, (d = data ∨ Value.equal d data = true) ∧ SpeechStore.blank.load d = (s.live, .ok ())

/-- The document with the patch applied is in the file and live. -/
def Commits (s s' : Files) (patch : Value) (device : Option Text) : Prop :=
  ∃ p data d, patch.obj? = some p ∧ s.file = some data ∧
    SpeechStore.change p device data = .ok d ∧ SpeechStore.blank.load d = (s'.live, .ok ()) ∧
    (s'.file = some d ∨ s'.file = some data ∧ Value.equal d data = true)

/-- What holds as long as texts are read back as they are. -/
structure Kept (s : Files) : Prop where
  live : s.Live
  plain : ∀ data, s.file = some data → data.Plain

/-- An update commits, or it raises, and the object stands for the file either way. -/
lemma update_cases {s : Files} (h : s.Kept) (fault : Fault) {patch : Value}
    {device : Option Text} (hclear : Clear patch device) :
    (s.update fault patch device).1.Kept ∧
      ((s.update fault patch device).2 = .ok () →
        s.Commits (s.update fault patch device).1 patch device) := by
  obtain ⟨data, hfile, ⟨live, hlive⟩, d, hd, hload⟩ := h.live
  unfold update
  split
  next => exact ⟨h, fun h => by cases h⟩
  next p hp =>
    rw [hfile]
    obtain ⟨fields, hfields⟩ := SpeechStore.load_obj hlive
    have hobj : data.obj?.isSome := Option.isSome_iff_exists.mpr ⟨fields, hfields⟩
    have hdata := h.plain data hfile
    have hplain : ∀ result, SpeechStore.change p device data = .ok result →
        result.readBack = result :=
      fun result => SpeechStore.change_plain (Dict.Plain.of_obj hclear.1 hp) hclear.2 hdata
    split
    next file' result hupdate =>
      obtain ⟨-, e, he⟩ | ⟨result', hchange, he, hfile'⟩ | ⟨_, -, he, -⟩ :=
        updateJson_cases hobj hupdate
      · cases he
      · cases he
        obtain ⟨live', hlive'⟩ := SpeechStore.change_ok hchange
        rw [SpeechStore.load_blank hlive' s.live]
        rw [hplain result hchange] at hfile'
        rcases hfile' with ⟨rfl, hequal⟩ | rfl
        · refine ⟨⟨⟨data, rfl, ⟨live, hlive⟩, result, .inr hequal, hlive'⟩, fun _ hsame => ?_⟩,
            fun _ => ⟨p, data, result, hp, hfile, hchange, hlive', .inr ⟨rfl, hequal⟩⟩⟩
          cases hsame
          exact hdata
        · refine ⟨⟨⟨result, rfl, ⟨live', hlive'⟩, result, .inl rfl, hlive'⟩, fun _ hsame => ?_⟩,
            fun _ => ⟨p, data, result, hp, hfile, hchange, hlive', .inl rfl⟩⟩
          cases hsame
          exact hplain result hchange
      · cases he
    next file' hupdate =>
      obtain ⟨data', rfl, ⟨live', hlive'⟩, hread⟩ : ∃ data', file' = some data' ∧
          (∃ live', SpeechStore.blank.load data' = (live', .ok ())) ∧ data'.Plain := by
        obtain ⟨rfl, -⟩ | ⟨_, -, he, -⟩ | ⟨result, hchange, -, rfl, -⟩ :=
          updateJson_cases hobj hupdate
        · exact ⟨data, rfl, ⟨live, hlive⟩, hdata⟩
        · cases he
        · rw [hplain result hchange]
          exact ⟨result, rfl, SpeechStore.change_ok hchange, hplain result hchange⟩
      simp only [SpeechStore.load_blank hlive' s.live]
      refine ⟨⟨⟨data', rfl, ⟨live', hlive'⟩, data', .inl rfl, hlive'⟩, fun _ hsame => ?_⟩,
        fun h => by cases h⟩
      cases hsame
      exact hread
    next file' e hos hupdate =>
      obtain ⟨rfl, -⟩ | ⟨_, -, he, -⟩ | ⟨result, -, he, -⟩ := updateJson_cases hobj hupdate
      · refine ⟨⟨⟨data, rfl, ⟨live, hlive⟩, d, hd, hload⟩, fun _ hsame => ?_⟩, fun h => by cases h⟩
        cases hsame
        exact hdata
      · cases he
      · cases he
        exact absurd rfl hos

lemma create_kept {file file' : Option Value} {backends : List Backend} {fault : Fault}
    {live : SpeechStore} (hread : ∀ data, file = some data → data.Plain)
    (h : create file backends fault = (file', .ok live)) :
    (⟨file', live⟩ : Files).Kept := by
  unfold create at h
  split at h
  next data =>
    obtain ⟨rfl, hmap⟩ := Prod.mk.inj h
    obtain ⟨u, hu, hlive⟩ := map_eq_ok.mp hmap
    have hload : SpeechStore.blank.load data = (live, .ok ()) := Prod.ext hlive hu
    exact ⟨⟨data, rfl, ⟨live, hload⟩, data, .inl rfl, hload⟩, hread⟩
  next =>
    split at h
    next =>
      dsimp only at h
      split at h
      next => cases h
      next live' u hload =>
        split at h
        next => cases h
        next file'' data hupdate =>
          obtain ⟨rfl, hmap⟩ := Prod.mk.inj h
          obtain ⟨u', hu, hlive⟩ := map_eq_ok.mp hmap
          have hplain : (initial backends).readBack.readBack = (initial backends).readBack :=
            Value.plain_readBack (initial backends)
          have hdata : file'' = some data ∧ data = (initial backends).readBack := by
            unfold updateJson at hupdate
            split at hupdate
            · cases hupdate
            · simp only [Option.getD_none, SpeechStore.obj?_empty, Option.isSome_none,
                Bool.and_false, Bool.false_eq_true, if_false, hplain] at hupdate
              split at hupdate
              · cases hupdate
              · cases hupdate
              · cases hupdate
                exact ⟨rfl, rfl⟩
          have hload' := SpeechStore.load_blank (Prod.ext hlive hu :
            live'.load data = (live, .ok ())) SpeechStore.blank
          refine ⟨⟨data, hdata.1, ⟨live, hload'⟩, data, .inl rfl, hload'⟩, fun data' hsame => ?_⟩
          rw [hdata.1] at hsame
          cases hsame
          rw [hdata.2]
          exact hplain
    next => cases h

lemma Reachable.kept {s : Files} (h : Reachable Clear s) : s.Kept := by
  induction h with
  | start hread h => exact create_kept hread h
  | update _ fault hc ih => exact (update_cases ih fault hc).1

end Files

/-- **The speech settings are closed.** Every document that loads gives every device a selection and
its voice settings; and from every reachable state an update with any patch, device and failure
commits a document that loads and makes it live, or raises, and the object stands for the file, as
long as the texts of the updates are read back as they are. -/
theorem settings_closed :
    (∀ (s s' : SpeechStore) (data : Value), s.load data = (s', .ok ()) → ∀ device,
      (∃ sel, s'.resolve device = .ok sel ∧ sel.stt.kind = .stt ∧ sel.tts.kind = .tts ∧
        s'.backends.get? sel.stt.id = some sel.stt ∧
        s'.backends.get? sel.tts.id = some sel.tts ∧ sel.voiceId ∈ sel.tts.voices) ∧
      ∃ v, s'.voiceSettings device = .ok v ∧
        (v.mode = .str standard ∨ v.mode = .str realtime) ∧
        (v.mode = .str realtime → ∃ b t, s'.backends.get? v.realtimeBackend = some b ∧
          b.kind = .realtime ∧ v.realtimeVoice = .str t ∧ t ∈ b.voices)) ∧
    ∀ s : Files, s.Reachable Files.Clear → ∀ fault patch device, Files.Clear patch device →
      (s.update fault patch device).1.Live ∧
        ((s.update fault patch device).2 = .ok () →
          s.Commits (s.update fault patch device).1 patch device) := by
  constructor
  · intro s s' data h device
    obtain ⟨defaults, devices, haccepted⟩ := SpeechStore.load_ok h
    exact ⟨haccepted.resolve device, haccepted.voiceSettings device⟩
  · intro s h fault patch device hclear
    have hcases := Files.update_cases h.kept fault hclear
    exact ⟨hcases.1.live, hcases.2⟩

def sampleBackends : List Backend :=
  [⟨text "w", .stt, text "whisper", text "m", text "h", 1, []⟩,
    ⟨text "p", .tts, text "piper", text "m", text "h", 1, [text "v"]⟩]

def sampleFiles : Files :=
  ⟨(Files.create none sampleBackends .none).1, (SpeechStore.blank.load
    (Files.initial sampleBackends).readBack).1⟩

lemma sampleFiles_reachable (condition : Value → Option Text → Prop) :
    sampleFiles.Reachable condition :=
  @Files.Reachable.start condition none sampleBackends .none sampleFiles (fun _ h => by cases h) rfl

/-- A voice for a device that has no realtime provider. -/
def voicePatch (voice : Text) : Value := .obj [(text "realtime_voice", .str voice)]

theorem settings_closed_sample : ∃ s : Files, s.Reachable Files.Clear ∧
    (s.update .after (voicePatch (text "v")) (some (text "d"))).1.Live := by
  refine ⟨sampleFiles, sampleFiles_reachable _,
    (settings_closed.2 _ (sampleFiles_reachable _) .after (voicePatch (text "v")) (some (text "d"))
      ⟨rfl, fun d hd => ?_⟩).1⟩
  cases hd
  exact plain_text "d"

/-- What the object says of the devices is what the file says of them. -/
lemma Files.Live.devices {s : Files} (h : s.Live) : ∃ d fileDevices, s.file.bind Value.obj? = some d ∧
    d.get? (text "devices") = some fileDevices ∧
    (s.live.devices = fileDevices ∨ Value.equal s.live.devices fileDevices = true) := by
  obtain ⟨data, hfile, ⟨live, hlive⟩, d, hd, hload⟩ := h
  obtain ⟨f, devices, rfl, -, hdevices, hsame⟩ := SpeechStore.load_fields hload
  obtain ⟨e, devices', rfl, -, hdevices', -⟩ := SpeechStore.load_fields hlive
  refine ⟨e, .obj devices'.entries, ?_, hdevices', ?_⟩
  · rw [hfile, Option.bind_some, Value.obj?_entries]
  rcases hd with hd | hd
  · left
    have hobj := congrArg Value.obj? hd
    rw [Value.obj?_entries, Value.obj?_entries] at hobj
    cases hobj
    rw [hdevices] at hdevices'
    rw [hsame, Option.some.inj hdevices']
  · right
    obtain ⟨hnone, -⟩ | ⟨a, b, ha, hb, hab⟩ := Value.get?_of_equal hd (text "devices")
    · rw [hdevices] at hnone
      cases hnone
    · rw [hdevices] at ha
      rw [hdevices'] at hb
      cases ha
      cases hb
      rw [hsame]
      exact hab

/-- Two surrogates, of which the file is read back with one code point. -/
def splitVoice : Text := [0xd83d, 0xde00]

def splitFiles : Files := (sampleFiles.update .none (voicePatch splitVoice) (some (text "d"))).1

/-- An unknown field. -/
def badPatch : Value := .obj [(text "x", .null)]

/-- Where a text of a patch is not read back as it is, a later update is refused with another text
in the object than in the file. -/
theorem split_text_differs :
    ¬ ∀ s : Files, s.Reachable (fun _ _ => True) → ∀ fault patch device,
      (∃ e, (s.update fault patch device).2 = .error e) →
        (s.update fault patch device).1.Live := by
  intro h
  have hreachable : splitFiles.Reachable fun _ _ => True :=
    .update (sampleFiles_reachable _) .none trivial
  have hrefused : (splitFiles.update .none badPatch none).2.isOk = false := by decide +kernel
  have hraised : ∃ e, (splitFiles.update .none badPatch none).2 = .error e := by
    cases hr : (splitFiles.update .none badPatch none).2 with
    | error e => exact ⟨e, rfl⟩
    | ok u =>
      rw [hr] at hrefused
      cases hrefused
  obtain ⟨d, fileDevices, hd, hget, hsame⟩ := (h splitFiles hreachable .none badPatch none
    hraised).devices
  have hother : (((splitFiles.update .none badPatch none).1.file.bind Value.obj?).bind
      (·.get? (text "devices"))).any (fun v =>
        !Value.equal (splitFiles.update .none badPatch none).1.live.devices v &&
          Value.equal v v) = true := by
    decide +kernel
  rw [hd, Option.bind_some, hget, Option.any_some, Bool.and_eq_true, Bool.not_eq_true'] at hother
  rcases hsame with hsame | hsame
  · rw [hsame, hother.2] at hother
    cases hother.1
  · rw [hsame] at hother
    cases hother.1

end Vauxr.Speech
