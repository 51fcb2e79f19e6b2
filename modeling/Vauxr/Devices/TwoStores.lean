import Mathlib
import Vauxr.Devices.RoundTrip
import Vauxr.Speech.Mode

/-!
An update of a device over both its stores (`devices/registry.py`): the mode goes to the speech
settings first, the rest to `devices.json`, and the mode is put back where the second save comes to
nothing.

The reply and the live entry of the device are left out.
-/

namespace Vauxr.TwoStores

open Lib Devices

structure Stores where
  speech : Speech.Files
  devices : State

/-- Where the saves of one update fail: of the speech settings, of the device settings, and of the
speech settings again when the mode is put back. -/
structure Faults where
  speech : Speech.Fault
  devices : WriteFault
  rollback : Speech.Fault

def modeText : PipelineMode → Text
  | .standard => Speech.standard
  | .realtime => Speech.realtime

namespace Stores

/-- The settings of the device with the patch. -/
def merged (s : Stores) (device : Text) (patch : Patch) : DeviceConfig :=
  ((s.devices.configs.get? device).getD .empty).merge patch.config

/-- The settings of every device with the patch. -/
def updated (s : Stores) (device : Text) (patch : Patch) : Dict Text DeviceConfig :=
  s.devices.configs.set device (s.merged device patch)

/-- `update_config`, behind the update of the mode. -/
def saveDevices (s : Stores) (speech : Speech.Files) (faults : Faults) (device : Text)
    (patch : Patch) : Stores × Except Speech.Error Unit :=
  let updated := s.updated device patch
  let written := File.json (save updated).readBack
  let failed (file : File) : Stores × Except Speech.Error Unit :=
    if sameConfigs (load file) updated then (⟨speech, ⟨file, updated⟩⟩, .error .os)
    else
      match patch.pipelineMode with
      | none => (⟨speech, ⟨file, s.devices.configs⟩⟩, .error .os)
      | some _ =>
        let previous := Speech.previousMode s.speech.live device
        let (speech, back) :=
          speech.update faults.rollback (Speech.modePatch previous) (some device)
        (⟨speech, ⟨file, s.devices.configs⟩⟩, back.bind fun _ => .error .os)
  match faults.devices with
  | .none => (⟨speech, ⟨written, updated⟩⟩, .ok ())
  | .before => failed s.devices.file
  | .after => failed written

/-- `update_config` -/
def updateConfig (s : Stores) (faults : Faults) (device : Text) (patch : Patch) :
    Stores × Except Speech.Error Unit :=
  match patch.pipelineMode with
  | none => s.saveDevices s.speech faults device patch
  | some mode =>
    match s.speech.update faults.speech (Speech.modePatch (.str (modeText mode)))
      (some device) with
    | (speech, .error e) => ({ s with speech }, .error e)
    | (speech, .ok _) => s.saveDevices speech faults device patch

/-- The file holds the settings of the device with the patch, as they are loaded. -/
def Holds (file : File) (device : Text) (cfg : DeviceConfig) : Prop :=
  (load file).get? device = some cfg.withoutEmptyActions

/-- The mode that the speech settings keep for the device. -/
def HasMode (s : Stores) (device : Text) (mode : PipelineMode) : Prop :=
  Speech.persistedMode s.speech.file device = some (.str (modeText mode))

/-- The settings in memory are the ones of the file, as they are loaded. -/
def Fresh (s : Stores) : Prop :=
  ∀ device, s.devices.configs.get? device = (load s.devices.file).get? device

/-- What an update leaves: fresh settings, and both parts of the patch or neither. -/
def Agrees (s s' : Stores) (device : Text) (patch : Patch) : Prop :=
  s'.Fresh ∧ ∀ mode, patch.pipelineMode = some mode →
    (s'.HasMode device mode ↔ Holds s'.devices.file device (s.merged device patch))

/-- The change of the mode is accepted; it is a write, if the document is another one with it. -/
def Accepts (s : Stores) (device : Text) (mode : PipelineMode) (write : Bool) : Prop :=
  ∃ data d, s.speech.file = some data ∧
    Speech.SpeechStore.change (Speech.modeFields (.str (modeText mode))) (some device) data =
      .ok d ∧ Value.equal d data = !write

/-- The speech settings take the mode, and nothing fails on the way. -/
def Takes (s : Stores) (faults : Faults) (device : Text) (mode : PipelineMode) : Prop :=
  faults.speech ≠ .lock ∧
    (s.Accepts device mode false ∨ faults.speech = .none ∧ s.Accepts device mode true)

/-- The speech settings get the mode, but their save fails behind the rename. -/
def Breaks (s : Stores) (faults : Faults) (device : Text) (mode : PipelineMode) : Prop :=
  faults.speech = .after ∧ s.Accepts device mode true

/-- The condition under which an update leaves both stores in agreement. The id of the device and
the texts of the patch are read back as they are. Where `devices.json` gets written, the patch has
no empty map of actions. Where the patch has a mode:

* if the speech settings do not take it, both parts of the patch were there before or neither, and
  if their save fails behind the rename, the settings were there before;
* if `devices.json` then cannot be written and is not what it would be, both parts were there before
  or neither, and the settings were, if the mode cannot be put back. -/
def Spared (s : Stores) (faults : Faults) (device : Text) (patch : Patch) : Prop :=
  (device.Plain ∧ patch.config.Plain) ∧
  ((∀ mode, patch.pipelineMode = some mode → s.Takes faults device mode) →
    faults.devices ≠ .before → patch.config.buttonActions ≠ some .empty) ∧
  ∀ mode, patch.pipelineMode = some mode →
    (¬ s.Takes faults device mode → ¬ s.Breaks faults device mode →
      (s.HasMode device mode ↔ Holds s.devices.file device (s.merged device patch))) ∧
    (s.Breaks faults device mode → Holds s.devices.file device (s.merged device patch)) ∧
    (s.Takes faults device mode → faults.devices = .before →
      sameConfigs (load s.devices.file) (s.updated device patch) = false →
      if faults.rollback = .none ∨ faults.rollback = .after then
        s.HasMode device mode ↔ Holds s.devices.file device (s.merged device patch)
      else Holds s.devices.file device (s.merged device patch))

/-- A patch that a handler has accepted. -/
def Asked (patch : Patch) : Prop :=
  ∃ body, updateDevice body = .ok patch ∨ deviceCommand body = .ok (some patch)

/-- The states of a process that has opened both stores, whatever it has updated since, if the texts
of the speech settings are read back as they are and the updates of devices met a condition. -/
inductive Reachable (condition : Stores → Faults → Text → Patch → Prop) : Stores → Prop
  | start {speech : Speech.Files} {file : File} {devices : State}
      (hs : speech.Reachable Speech.Files.Clear) (hparsed : file.Parsed)
      (hd : start file = .ok devices) : Reachable condition ⟨speech, devices⟩
  | speech {s : Stores} (h : Reachable condition s) (fault : Speech.Fault) {patch : Value}
      {device : Option Text} (hc : Speech.Files.Clear patch device) :
      Reachable condition { s with speech := (s.speech.update fault patch device).1 }
  | device {s : Stores} (h : Reachable condition s) {faults : Faults} {device : Text}
      {patch : Patch} (hp : Asked patch) (hc : condition s faults device patch) :
      Reachable condition (s.updateConfig faults device patch).1

/-! ### The settings as they are loaded -/

lemma Asked.rate {patch : Patch} (h : Asked patch) : patch.config.outputSampleRate = none := by
  obtain ⟨body, h | h⟩ := h
  · exact updateDevice_rate h
  · exact deviceCommand_rate h

lemma withoutEmptyActions_eq {cfg : DeviceConfig} :
    cfg.withoutEmptyActions = cfg ↔ cfg.buttonActions ≠ some .empty := by
  constructor
  · intro h hempty
    have hb := congrArg DeviceConfig.buttonActions h
    simp [DeviceConfig.withoutEmptyActions, hempty] at hb
  · intro h
    obtain ⟨transport, name, voice, mode, rate, barge, actions⟩ := cfg
    cases actions with
    | none => rfl
    | some a =>
      have ha : a ≠ .empty := fun he => h (congrArg some he)
      simp [DeviceConfig.withoutEmptyActions, ha]

/-- What is loaded has no empty map of actions. -/
lemma load_actions {file : File} {device : Text} {cfg : DeviceConfig}
    (h : (load file).get? device = some cfg) : cfg.withoutEmptyActions = cfg := by
  cases file with
  | missing => cases h
  | unreadable => cases h
  | json v =>
    simp only [load] at h
    cases hv : v.obj? with
    | none =>
      rw [hv] at h
      cases h
    | some d =>
      rw [hv, Option.elim_some, sanitizeEntries, Dict.get?_map_some] at h
      obtain ⟨raw, -, rfl⟩ := h
      unfold sanitizeEntry
      cases raw.obj? with
      | none => rfl
      | some d => simp [DeviceConfig.withoutEmptyActions]

lemma load_save {configs : Dict Text DeviceConfig} (h : Sound configs) (device : Text) :
    (load (.json (save configs))).get? device =
      (configs.get? device).map DeviceConfig.withoutEmptyActions := by
  simp only [load, save_obj?, Option.elim_some]
  exact sanitizeEntries_save h device

lemma sameConfigs_iff {a b : Dict Text DeviceConfig} :
    sameConfigs a b = true ↔ ∀ device, a.get? device = b.get? device := by
  simp only [sameConfigs, List.all_eq_true, decide_eq_true_eq, List.mem_append]
  refine ⟨fun h device => ?_, fun h device _ => h device⟩
  cases ha : a.get? device with
  | some cfg => exact ha ▸ h device (.inl (Dict.mem_keys.mpr ⟨cfg, ha⟩))
  | none =>
    cases hb : b.get? device with
    | none => rfl
    | some cfg =>
      have hsame := h device (.inr (Dict.mem_keys.mpr ⟨cfg, hb⟩))
      rw [ha, hb] at hsame
      cases hsame

/-- What the strict loader leaves in memory is what the file reads as. -/
lemma load_strict {file file' : File} {configs : Dict Text DeviceConfig}
    (h : loadStrict file = .ok (file', configs)) : load file' = configs := by
  cases file with
  | missing =>
    cases h
    rfl
  | unreadable => cases h
  | json v =>
    obtain ⟨d, hd, -, he⟩ := loadStrict_json.mp h
    obtain ⟨rfl, rfl⟩ := Prod.mk.inj he
    simp only [load, hd, Option.elim_some]

/-- What holds of the stores between updates. -/
structure Inv (s : Stores) : Prop where
  kept : s.speech.Kept
  fresh : s.Fresh
  sound : Sound s.devices.configs
  known : Known s.devices.configs
  plain : ∀ device cfg, s.devices.configs.get? device = some cfg → cfg.Plain

lemma plain_merge {old new : DeviceConfig} (ho : old.Plain) (hn : new.Plain) :
    (old.merge new).Plain := by
  constructor
  · intro n hmem
    cases hname : new.name with
    | none =>
      rw [DeviceConfig.merge, hname] at hmem
      exact ho.name n hmem
    | some n' =>
      rw [DeviceConfig.merge, hname] at hmem
      cases hmem
      exact hn.name n hname
  · intro actions hmem
    cases hactions : new.buttonActions with
    | none =>
      rw [DeviceConfig.merge, hactions] at hmem
      exact ho.actions actions hmem
    | some a =>
      rw [DeviceConfig.merge, hactions] at hmem
      cases hmem
      exact hn.actions actions hactions

lemma plain_mode (mode : PipelineMode) : (modeText mode).Plain := by
  cases mode <;> exact plain_text _

section

variable {s : Stores} {device : Text} {patch : Patch}

lemma Inv.updated_sound (h : s.Inv) (hp : Asked patch) (device : Text) :
    Sound (s.updated device patch) := by
  intro d cfg hget n hn
  unfold Stores.updated at hget
  rw [Dict.get?_set] at hget
  split at hget
  next hd =>
    cases hget
    unfold merged at hn
    rw [DeviceConfig.merge, hp.rate] at hn
    cases hold : s.devices.configs.get? device with
    | none =>
      rw [hold] at hn
      cases hn
    | some old =>
      rw [hold] at hn
      exact h.sound device old hold n hn
  next => exact h.sound d cfg hget n hn

lemma Inv.updated_plain (h : s.Inv) (hclear : device.Plain ∧ patch.config.Plain) :
    Known (s.updated device patch) ∧
      ∀ d cfg, (s.updated device patch).get? d = some cfg → cfg.Plain := by
  constructor
  · intro d cfg hget
    unfold Stores.updated at hget
    rw [Dict.get?_set] at hget
    split at hget
    next hd => exact hd ▸ hclear.1
    next => exact h.known d cfg hget
  · intro d cfg hget
    unfold Stores.updated at hget
    rw [Dict.get?_set] at hget
    split at hget
    next hd =>
      cases hget
      refine plain_merge ?_ hclear.2
      cases hold : s.devices.configs.get? device with
      | none => exact ⟨fun n hn => (by cases hn), fun a ha => (by cases ha)⟩
      | some old => exact h.plain device old hold
    next => exact h.plain d cfg hget

/-- A parser hands over what the update writes. -/
lemma Inv.read_written (h : s.Inv) (hclear : device.Plain ∧ patch.config.Plain) :
    (save (s.updated device patch)).readBack = save (s.updated device patch) :=
  save_plain (h.updated_plain hclear).1 (h.updated_plain hclear).2

lemma Inv.merged_actions (h : s.Inv) (hactions : patch.config.buttonActions ≠ some .empty) :
    (s.merged device patch).withoutEmptyActions = s.merged device patch := by
  rw [withoutEmptyActions_eq]
  unfold merged
  cases hold : s.devices.configs.get? device with
  | none =>
    cases hb : patch.config.buttonActions with
    | none => simp [DeviceConfig.merge, DeviceConfig.empty, hb]
    | some a =>
      rw [hb] at hactions
      simpa [DeviceConfig.merge, hb] using hactions
  | some old =>
    have hloaded := load_actions ((h.fresh device).symm.trans hold)
    rw [withoutEmptyActions_eq] at hloaded
    cases hb : patch.config.buttonActions with
    | none => simpa [DeviceConfig.merge, hb] using hloaded
    | some a =>
      rw [hb] at hactions
      simpa [DeviceConfig.merge, hb] using hactions

/-- A written file reads as what was written, if the patch has no empty map of actions. -/
lemma Inv.written (h : s.Inv) (hp : Asked patch)
    (hactions : patch.config.buttonActions ≠ some .empty) (device d : Text) :
    (load (.json (save (s.updated device patch)))).get? d = (s.updated device patch).get? d := by
  rw [load_save (h.updated_sound hp device), Stores.updated, Dict.get?_set]
  split
  · rw [Option.map_some, h.merged_actions hactions]
  · cases hget : s.devices.configs.get? d with
    | none => rfl
    | some cfg => rw [Option.map_some, load_actions ((h.fresh d).symm.trans hget)]

lemma holds_written (h : s.Inv) (hp : Asked patch) :
    Holds (.json (save (s.updated device patch))) device (s.merged device patch) := by
  unfold Holds
  rw [load_save (h.updated_sound hp device), Stores.updated, Dict.get?_set_self, Option.map_some]

/-- The file is what it would be written as. -/
lemma holds_same {file : File}
    (hsame : sameConfigs (load file) (s.updated device patch) = true) :
    Holds file device (s.merged device patch) := by
  have hget := sameConfigs_iff.mp hsame device
  rw [Stores.updated, Dict.get?_set_self] at hget
  unfold Holds
  rw [hget, load_actions hget]

/-- What the save of the devices leaves, behind speech settings that took the mode. -/
lemma saveDevices_inv (h : s.Inv) (hp : Asked patch) (hclear : device.Plain ∧ patch.config.Plain)
    {speech : Speech.Files} (hkept : speech.Kept) {faults : Faults}
    (hactions : faults.devices ≠ .before → patch.config.buttonActions ≠ some .empty) :
    (s.saveDevices speech faults device patch).1.Inv := by
  have hupdated := h.updated_sound hp device
  obtain ⟨hknown, hplain⟩ := h.updated_plain hclear
  have hread := h.read_written hclear
  have hback : (speech.update faults.rollback
      (Speech.modePatch (Speech.previousMode s.speech.live device)) (some device)).1.Kept :=
    (Speech.Files.update_cases hkept _ (Speech.Files.modePatch_clear
      (h.kept.live.previousMode_plain device) hclear.1)).1
  unfold saveDevices
  dsimp only
  rw [hread]
  cases hf : faults.devices with
  | none =>
    rw [hf] at hactions
    exact ⟨hkept, fun d => (h.written hp (hactions (by nofun)) device d).symm, hupdated, hknown,
      hplain⟩
  | before =>
    dsimp only
    split
    next hsame =>
      exact ⟨hkept, fun d => (sameConfigs_iff.mp hsame d).symm, hupdated, hknown, hplain⟩
    next =>
      split
      · exact ⟨hkept, h.fresh, h.sound, h.known, h.plain⟩
      · exact ⟨hback, h.fresh, h.sound, h.known, h.plain⟩
  | after =>
    rw [hf] at hactions
    have hsame := sameConfigs_iff.mpr (h.written hp (hactions (by nofun)) device)
    dsimp only
    rw [if_pos hsame]
    exact ⟨hkept, fun d => (h.written hp (hactions (by nofun)) device d).symm, hupdated, hknown,
      hplain⟩

/-- What the update of the mode comes to: it returns exactly where the settings take it, and where
it raises, the file has the mode or is untouched. -/
lemma speech_stage (h : s.Inv) (faults : Faults) {device : Text} (hdevice : device.Plain)
    (mode : PipelineMode) :
    let r := s.speech.update faults.speech (Speech.modePatch (.str (modeText mode))) (some device)
    (r.2 = .ok () ∧ s.Takes faults device mode) ∨
      (∃ e, r.2 = .error e) ∧ ¬ s.Takes faults device mode ∧
        (s.Breaks faults device mode ∧ Speech.persistedMode r.1.file device =
            some (.str (modeText mode)) ∨
          ¬ s.Breaks faults device mode ∧ r.1.file = s.speech.file) := by
  intro r
  have hv := Speech.modePatch_obj? (.str (modeText mode))
  obtain ⟨data, hfile, ⟨live, hlive⟩, -⟩ := h.kept.live
  obtain ⟨fields, hfields⟩ := Speech.SpeechStore.load_obj hlive
  have hr : r.1.file = (Speech.updateJson (some data) faults.speech
      (Speech.SpeechStore.change (Speech.modeFields (.str (modeText mode))) (some device))).1 := by
    rw [← hfile]
    exact Speech.Files.update_file hv _ _
  -- what is accepted is accepted in one way only
  have haccepts : ∀ d write, Speech.SpeechStore.change (Speech.modeFields (.str (modeText mode)))
      (some device) data = .ok d → s.Accepts device mode write → Value.equal d data = !write := by
    rintro d write hd ⟨data', d', hfile', hd', hequal⟩
    rw [hfile] at hfile'
    cases hfile'
    rw [hd] at hd'
    cases hd'
    exact hequal
  cases hchange : Speech.SpeechStore.change (Speech.modeFields (.str (modeText mode)))
      (some device) data with
  | error e =>
    have hnone : ∀ write, ¬ s.Accepts device mode write := by
      rintro write ⟨data', d', hfile', hd', -⟩
      rw [hfile] at hfile'
      cases hfile'
      rw [hchange] at hd'
      cases hd'
    obtain ⟨e', hj⟩ : ∃ e', Speech.updateJson (some data) faults.speech (Speech.SpeechStore.change
        (Speech.modeFields (.str (modeText mode))) (some device)) = (some data, .error e') := by
      unfold Speech.updateJson
      split
      · exact ⟨_, rfl⟩
      · simp only [Option.getD_some, hfields, hchange]
        exact ⟨_, rfl⟩
    refine .inr ⟨Speech.Files.update_fails hv (hfile ▸ hj), ?_, .inr ⟨?_, ?_⟩⟩
    · rintro ⟨-, hfalse | ⟨-, htrue⟩⟩
      · exact hnone _ hfalse
      · exact hnone _ htrue
    · exact fun hbreaks => hnone _ hbreaks.2
    · rw [hr, hj, hfile]
  | ok d =>
    obtain ⟨live', hlive'⟩ := Speech.SpeechStore.change_ok hchange
    have hmode := Speech.persistedMode_change hchange
    have hread := h.kept.change_plain (Value.plain_str.mpr (plain_mode mode)) hdevice hfile hchange
    by_cases hlock : faults.speech = .lock
    · have hj : Speech.updateJson (some data) faults.speech (Speech.SpeechStore.change
          (Speech.modeFields (.str (modeText mode))) (some device)) = (some data, .error .os) := by
        rw [hlock]
        rfl
      refine .inr ⟨Speech.Files.update_fails hv (hfile ▸ hj), fun ht => ht.1 hlock,
        .inr ⟨fun hb => ?_, by rw [hr, hj, hfile]⟩⟩
      have hafter := hb.1
      rw [hlock] at hafter
      cases hafter
    · cases hequal : Value.equal d data with
      | true =>
        have hj : Speech.updateJson (some data) faults.speech (Speech.SpeechStore.change
            (Speech.modeFields (.str (modeText mode))) (some device)) = (some data, .ok d) := by
          unfold Speech.updateJson
          rw [if_neg hlock]
          simp only [Option.getD_some, hfields, hchange, hequal, Option.isSome_some, Bool.and_true,
            if_true]
        exact .inl ⟨Speech.Files.update_returns hv (hfile ▸ hj) hlive', hlock,
          .inl ⟨data, d, hfile, hchange, hequal⟩⟩
      | false =>
        have hwrite : s.Accepts device mode true := ⟨data, d, hfile, hchange, hequal⟩
        have hno : ¬ s.Accepts device mode false := by
          intro hfalse
          have hsame := haccepts d false hchange hfalse
          rw [hequal] at hsame
          cases hsame
        cases hf : faults.speech with
        | lock => exact absurd hf hlock
        | none =>
          have hj : Speech.updateJson (some data) faults.speech (Speech.SpeechStore.change
              (Speech.modeFields (.str (modeText mode))) (some device)) = (some d, .ok d) := by
            unfold Speech.updateJson
            rw [if_neg hlock]
            simp only [Option.getD_some, hfields, hchange, hequal, Bool.false_and,
              Bool.false_eq_true, if_false, hf, hread]
          exact .inl ⟨Speech.Files.update_returns hv (hfile ▸ hj) hlive', hlock,
            .inr ⟨hf, hwrite⟩⟩
        | before =>
          have hj : Speech.updateJson (some data) faults.speech (Speech.SpeechStore.change
              (Speech.modeFields (.str (modeText mode))) (some device)) = (some data, .error .os) := by
            unfold Speech.updateJson
            rw [if_neg hlock]
            simp only [Option.getD_some, hfields, hchange, hequal, Bool.false_and,
              Bool.false_eq_true, if_false, hf]
          refine .inr ⟨Speech.Files.update_fails hv (hfile ▸ hj), ?_, .inr ⟨fun hb => ?_, ?_⟩⟩
          · rintro ⟨-, hfalse | ⟨hn, -⟩⟩
            · exact hno hfalse
            · rw [hf] at hn
              cases hn
          · have hafter := hb.1
            rw [hf] at hafter
            cases hafter
          · rw [hr, hj, hfile]
        | after =>
          have hj : Speech.updateJson (some data) faults.speech (Speech.SpeechStore.change
              (Speech.modeFields (.str (modeText mode))) (some device)) = (some d, .error .os) := by
            unfold Speech.updateJson
            rw [if_neg hlock]
            simp only [Option.getD_some, hfields, hchange, hequal, Bool.false_and,
              Bool.false_eq_true, if_false, hf, hread]
          refine .inr ⟨Speech.Files.update_fails hv (hfile ▸ hj), ?_,
            .inl ⟨⟨hf, hwrite⟩, ?_⟩⟩
          · rintro ⟨-, hfalse | ⟨hn, -⟩⟩
            · exact hno hfalse
            · rw [hf] at hn
              cases hn
          · rw [hr, hj]
            exact hmode

/-- One update keeps what holds between updates, and leaves both stores in agreement. -/
lemma updateConfig_agrees (h : s.Inv) {faults : Faults} (hp : Asked patch)
    (hs : s.Spared faults device patch) :
    (s.updateConfig faults device patch).1.Inv ∧
      s.Agrees (s.updateConfig faults device patch).1 device patch := by
  obtain ⟨hclear, hactions, hmodes⟩ := hs
  have hread := h.read_written hclear
  unfold updateConfig
  cases hmode : patch.pipelineMode with
  | none =>
    have hinv := saveDevices_inv h hp hclear h.kept
      (hactions (fun mode hm => by rw [hmode] at hm; cases hm))
    exact ⟨hinv, hinv.fresh, fun mode hm => by rw [hmode] at hm; cases hm⟩
  | some mode =>
    obtain ⟨hrefused, hbroken, hback⟩ := hmodes mode hmode
    have hmodePlain := plain_mode mode
    have hkept := (Speech.Files.update_cases h.kept faults.speech
      (Speech.Files.modePatch_clear (Value.plain_str.mpr hmodePlain) hclear.1)).1
    have hsome : ∀ mode', patch.pipelineMode = some mode' → mode' = mode := by
      intro mode' hm
      rw [hmode] at hm
      exact (Option.some.inj hm).symm
    have hstage := speech_stage h faults hclear.1 mode
    have hback' := fun hok => Speech.Files.update_back h.kept faults.speech hmodePlain hclear.1
      hok faults.rollback
    have hhas := fun hok => (Speech.Files.update_mode h.kept faults.speech
      (Value.plain_str.mpr hmodePlain) hclear.1).1 hok
    dsimp only at hstage ⊢
    split
    next speech e hupdate =>
      rw [hupdate] at hstage hkept
      obtain ⟨hok, -⟩ | ⟨-, htakes, hfile⟩ := hstage
      · cases hok
      · refine ⟨⟨hkept, h.fresh, h.sound, h.known, h.plain⟩, h.fresh, fun mode' hm => ?_⟩
        obtain rfl := hsome mode' hm
        rcases hfile with ⟨hbreaks, hhas⟩ | ⟨hbreaks, hsame⟩
        · exact iff_of_true hhas (hbroken hbreaks)
        · dsimp only at hsame
          unfold HasMode
          rw [hsame]
          exact hrefused htakes hbreaks
    next speech u hupdate =>
      rw [hupdate] at hstage hkept hback' hhas
      obtain ⟨-, htakes⟩ | ⟨⟨e, herror⟩, -⟩ := hstage
      · have hall : ∀ mode', patch.pipelineMode = some mode' → s.Takes faults device mode' := by
          intro mode' hm
          rw [hsome mode' hm]
          exact htakes
        have hinv := saveDevices_inv h hp hclear hkept (hactions hall)
        refine ⟨hinv, hinv.fresh, fun mode' hm => ?_⟩
        obtain rfl := hsome mode' hm
        have hhas := hhas rfl
        have hback' := hback' rfl
        unfold saveDevices
        dsimp only
        rw [hread]
        cases hf : faults.devices with
        | none => exact iff_of_true hhas (holds_written h hp)
        | before =>
          dsimp only
          cases hsame : sameConfigs (load s.devices.file) (s.updated device patch) with
          | true =>
            rw [if_pos rfl]
            exact iff_of_true hhas (holds_same hsame)
          | false =>
            rw [if_neg (by decide), hmode]
            dsimp only
            unfold HasMode
            dsimp only
            rw [hback']
            have hcondition := hback htakes hf hsame
            split
            next hb =>
              rw [if_pos hb] at hcondition
              exact hcondition
            next hb =>
              rw [if_neg hb] at hcondition
              exact iff_of_true rfl hcondition
        | after =>
          have hempty := hactions hall (by rw [hf]; nofun)
          have hsame := sameConfigs_iff.mpr (h.written hp hempty device)
          dsimp only
          rw [if_pos hsame]
          exact iff_of_true hhas (holds_written h hp)
      · cases herror

end

lemma Reachable.inv {s : Stores} (h : Reachable Spared s) : s.Inv := by
  induction h with
  | start hs hparsed hd =>
    have hloaded := (start_loaded hparsed hd).1
    refine ⟨hs.kept, ?_, fun device cfg hget => (hloaded device cfg hget).2.sound,
      fun device cfg hget => (hloaded device cfg hget).1,
      fun device cfg hget => (hloaded device cfg hget).2.plain⟩
    obtain ⟨⟨file', configs⟩, hload, rfl⟩ := map_eq_ok.mp hd
    intro device
    dsimp only
    rw [load_strict hload]
  | speech _ fault hc ih =>
    exact ⟨(Speech.Files.update_cases ih.kept fault hc).1, ih.fresh, ih.sound, ih.known, ih.plain⟩
  | device _ hp hc ih => exact (updateConfig_agrees ih hp hc).1

end Stores

/-- **Both stores agree**: in every run whose updates meet the condition, an update of a device
returns or raises with the settings in memory as the file holds them, and with the mode in the
speech settings exactly when `devices.json` holds the settings of the patch. -/
theorem stores_agree {s : Stores} (h : Stores.Reachable Stores.Spared s) {faults : Faults}
    {device : Text} {patch : Patch} (hp : Stores.Asked patch)
    (hs : s.Spared faults device patch) :
    s.Agrees (s.updateConfig faults device patch).1 device patch :=
  (Stores.updateConfig_agrees h.inv hp hs).2

/-! ### Samples -/

def sampleStores : Stores := ⟨Speech.sampleFiles, ⟨.json (.obj []), Dict.empty⟩⟩

lemma sampleStores_reachable (condition : Stores → Faults → Text → Patch → Prop) :
    Stores.Reachable condition sampleStores :=
  @Stores.Reachable.start condition Speech.sampleFiles .missing ⟨.json (.obj []), Dict.empty⟩
    (Speech.sampleFiles_reachable _) missing_parsed rfl

def noFaults : Faults := ⟨.none, .none, .none⟩

/-- `{"pipeline_mode": "standard", "name": "n"}` -/
def samplePatch : Patch := ⟨{ DeviceConfig.empty with name := some (text "n") }, some .standard⟩

lemma samplePatch_asked : Stores.Asked samplePatch :=
  ⟨some (.obj [(text "pipeline_mode", .str (text "standard")), (text "name", .str (text "n"))]),
    .inl rfl⟩

theorem stores_agree_sample : sampleStores.Agrees
    (sampleStores.updateConfig noFaults (text "d") samplePatch).1 (text "d") samplePatch := by
  have hplain : samplePatch.config.Plain := by
    refine ⟨fun n hn => ?_, fun a ha => by cases ha⟩
    cases hn
    exact plain_text "n"
  refine stores_agree (sampleStores_reachable _) samplePatch_asked
    ⟨⟨plain_text "d", hplain⟩, fun _ _ => by nofun, ?_⟩
  intro mode hmode
  cases hmode
  refine ⟨fun htakes => absurd ?_ htakes, fun hbreaks => ?_, fun _ => by nofun⟩
  · have hchange : (Speech.SpeechStore.change (Speech.modeFields (.str (modeText .standard)))
        (some (text "d")) (sampleStores.speech.file.getD .null)).toOption.any
          (fun d => !Value.equal d (sampleStores.speech.file.getD .null)) = true := by
      decide +kernel
    obtain ⟨d, hd, hequal⟩ := (Option.any_eq_true _ _).mp hchange
    refine ⟨by nofun, .inr ⟨rfl, _, d, rfl, ?_, ?_⟩⟩
    · cases hc : Speech.SpeechStore.change (Speech.modeFields (.str (modeText .standard)))
          (some (text "d")) (sampleStores.speech.file.getD .null) with
      | error e =>
        rw [hc] at hd
        cases hd
      | ok d' =>
        rw [hc] at hd
        cases hd
        exact hc
    · rw [Bool.not_eq_true'] at hequal
      exact hequal
  · cases hbreaks.1

/-- `{"pipeline_mode": "standard", "button_actions": {}}` -/
def clearPatch : Patch :=
  ⟨{ DeviceConfig.empty with buttonActions := some .empty }, some .standard⟩

/-- An empty map of actions is read back as none: where the save fails behind the rename, the update
takes the file for unwritten, keeps the old settings in memory and puts the mode back. -/
theorem empty_actions_disagree : ¬ ∀ (s : Stores) (faults : Faults) (device : Text) (patch : Patch),
    Stores.Reachable (fun _ _ _ _ => True) s → Stores.Asked patch →
      s.Agrees (s.updateConfig faults device patch).1 device patch := by
  intro h
  have hasked : Stores.Asked clearPatch :=
    ⟨some (.obj [(text "pipeline_mode", .str (text "standard")), (text "button_actions", .obj [])]),
      .inl rfl⟩
  obtain ⟨-, hmode⟩ := h sampleStores ⟨.none, .after, .none⟩ (text "d") clearPatch
    (sampleStores_reachable _) hasked
  have hholds : Stores.Holds (sampleStores.updateConfig ⟨.none, .after, .none⟩ (text "d")
      clearPatch).1.devices.file (text "d") (sampleStores.merged (text "d") clearPatch) := by
    unfold Stores.Holds
    decide +kernel
  have hput : (Speech.persistedMode (sampleStores.updateConfig ⟨.none, .after, .none⟩ (text "d")
      clearPatch).1.speech.file (text "d")).isNone = true := by
    decide +kernel
  have hhas := (hmode .standard rfl).mpr hholds
  unfold Stores.HasMode at hhas
  rw [hhas] at hput
  cases hput

end Vauxr.TwoStores
