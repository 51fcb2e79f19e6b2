import Mathlib
import Vauxr.Speech.Store

/-!
The mode of one device in the document of the speech settings: what an update of the mode alone
writes, and that it can be taken back.
-/

namespace Vauxr.Speech

open Lib

/-- The mode that the document keeps for a device. -/
def persistedMode (file : Option Value) (device : Text) : Option Value := do
  let d ← file.bind Value.obj?
  let devices ← (d.get? (text "devices")).bind Value.obj?
  let settings ← (devices.get? device).bind Value.obj?
  settings.get? (text "mode")

/-- `{"mode": mode}` -/
def modePatch (mode : Value) : Value := .obj [(text "mode", mode)]

def modeFields (mode : Value) : Dict Text Value := Dict.empty.set (text "mode") mode

/-- `speech.devices.get(device_id, {}).get("mode")` -/
def previousMode (live : SpeechStore) (device : Text) : Value :=
  match live.override device with
  | .ok override => (override.get? (text "mode")).getD .null
  | .error _ => .null

lemma modePatch_obj? (mode : Value) : (modePatch mode).obj? = some (modeFields mode) :=
  Value.obj?_entries (modeFields mode)

namespace SpeechStore

/-- A document is still accepted with fewer devices. -/
lemma load_fewer {f devices : Dict Text Value} (devices' : Dict Text Value) {live : SpeechStore}
    (h : blank.load (.obj f.entries) = (live, .ok ()))
    (hd : f.get? (text "devices") = some (.obj devices.entries))
    (hsub : ∀ v ∈ devices'.values, v ∈ devices.values) :
    ∃ live', blank.load (.obj (f.set (text "devices") (.obj devices'.entries)).entries) =
      (live', .ok ()) := by
  unfold load at h
  split at h
  next => cases h
  next providers defaultsValue devicesValue hheader =>
    have hheader' : header (.obj (f.set (text "devices") (.obj devices'.entries)).entries) =
        .ok (providers, defaultsValue, .obj devices'.entries) := by
      simp only [header, bind_eq_ok, demand_eq_ok, refuse_eq_ok, Value.obj?_entries,
        Option.filter_eq_some_iff, Option.some.injEq] at hheader ⊢
      obtain ⟨_, ⟨rfl, hkeys⟩, _, hversion, p, hp, ds, hds, dv, hdv, hheader⟩ := hheader
      cases hheader
      have hother : ∀ key, text "devices" ≠ key →
          (f.set (text "devices") (.obj devices'.entries)).get? key = f.get? key :=
        fun key hne => Dict.get?_set_ne hne
      refine ⟨_, ⟨rfl, ?_⟩, (), ?_, providers, ?_, defaultsValue, ?_, .obj devices'.entries, ?_, rfl⟩
      · simp only [Bool.and_eq_true, decide_eq_true_eq, List.all_eq_true] at hkeys ⊢
        refine ⟨(Dict.size_set_of_get? hdv).trans hkeys.1, fun key hkey => ?_⟩
        obtain ⟨v, hv⟩ := Dict.mem_keys.mp (hkeys.2 key hkey)
        refine Dict.mem_keys.mpr ?_
        rw [Dict.get?_set]
        split
        · exact ⟨_, rfl⟩
        · exact ⟨v, hv⟩
      · rw [hother _ (by decide)]
        exact hversion
      · rw [hother _ (by decide)]
        exact hp
      · rw [hother _ (by decide)]
        exact hds
      · exact Dict.get?_set_self _ _ _
    have hdevices : devicesValue = .obj devices.entries := by
      simp only [header, bind_eq_ok, demand_eq_ok, Value.obj?_entries,
        Option.filter_eq_some_iff, Option.some.injEq] at hheader
      obtain ⟨_, ⟨rfl, -⟩, _, -, _, -, _, -, dv, hdv, hheader⟩ := hheader
      cases hheader
      rw [hd] at hdv
      exact (Option.some.inj hdv).symm
    subst hdevices
    split at h
    next => cases h
    next backends hbackends =>
      obtain ⟨-, hvalid⟩ := Prod.mk.inj h
      refine ⟨⟨byId backends, defaultsValue, .obj devices'.entries⟩, ?_⟩
      unfold load
      rw [hheader']
      simp only [hbackends, Prod.mk.injEq, true_and]
      simp only [validate, bind_eq_ok, demand_eq_ok, Value.obj?_entries, Option.some.injEq]
        at hvalid ⊢
      obtain ⟨defaults, hdefaults, _, rfl, u, hfields, hall⟩ := hvalid
      refine ⟨defaults, hdefaults, devices', rfl, u, hfields, ?_⟩
      exact forM_eq_ok.mpr fun v hv => forM_eq_ok.mp hall v (hsub v hv)

end SpeechStore

/-! ### An update of the mode -/

/-- The settings of a device with another mode; `null` takes the mode out. -/
def withMode (settings : Dict Text Value) : Value → Dict Text Value
  | .null => settings.erase (text "mode")
  | mode => settings.set (text "mode") mode

/-- The devices with the settings of one changed; empty settings are dropped. -/
def withSettings (devices : Dict Text Value) (device : Text) (settings : Dict Text Value) :
    Dict Text Value :=
  if settings.size = 0 then devices.erase device else devices.set device (.obj settings.entries)

/-- The document with other devices. -/
def withDevices (f devices : Dict Text Value) : Value :=
  .obj (f.set (text "devices") (.obj devices.entries)).entries

/-- The value of a mode that is there. -/
def present : Value → Option Value
  | .null => none
  | mode => some mode

lemma changeField_mode (settings : Dict Text Value) (mode : Value) :
    SpeechStore.changeField true settings (text "mode", mode) = .ok (withMode settings mode) := by
  cases mode <;> rfl

lemma withMode_get? (settings : Dict Text Value) (mode : Value) :
    (withMode settings mode).get? (text "mode") = present mode := by
  cases mode <;> simp [withMode, present]

lemma withSettings_get? {devices settings : Dict Text Value} (device : Text) :
    (((withSettings devices device settings).get? device).bind Value.obj?).bind
        (·.get? (text "mode")) = settings.get? (text "mode") := by
  unfold withSettings
  split
  next h =>
    rw [Dict.eq_empty_of_size h, Dict.get?_erase, if_pos rfl]
    rfl
  next =>
    rw [Dict.get?_set_self, Option.bind_some, Value.obj?_entries]
    rfl

lemma persistedMode_withDevices (f devices : Dict Text Value) (device : Text) :
    persistedMode (some (withDevices f devices)) device =
      ((devices.get? device).bind Value.obj?).bind (·.get? (text "mode")) := by
  simp only [persistedMode, withDevices, Option.bind_eq_bind, Option.bind_some,
    Value.obj?_entries, Dict.get?_set_self]

/-- What the change of a mode makes of an accepted document, if it is accepted again. -/
lemma change_mode {f devices override : Dict Text Value} {live : SpeechStore}
    (hload : SpeechStore.blank.load (.obj f.entries) = (live, .ok ()))
    (hd : f.get? (text "devices") = some (.obj devices.entries)) {device : Text}
    (ho : ((devices.get? device).getD (.obj [])).obj? = some override) (mode : Value) :
    SpeechStore.change (modeFields mode) (some device) (.obj f.entries) =
      (live.load (withDevices f (withSettings devices device (withMode override mode)))).2.bind
        fun _ => .ok (withDevices f (withSettings devices device (withMode override mode))) := by
  obtain ⟨f', devices', hf, hdefaults, hdevices, hlive⟩ := SpeechStore.load_fields hload
  obtain rfl : f = f' := by
    have h := congrArg Value.obj? hf
    rw [Value.obj?_entries, Value.obj?_entries] at h
    exact Option.some.inj h
  obtain rfl : devices = devices' := by
    rw [hd] at hdevices
    have h := congrArg Value.obj? (Option.some.inj hdevices)
    rw [Value.obj?_entries, Value.obj?_entries] at h
    exact Option.some.inj h
  have hoverride : live.override device = .ok override := by
    simp only [SpeechStore.override, hlive, Value.obj?_entries, bind_eq_ok, demand_eq_ok,
      Option.some.injEq, exists_eq_left']
    exact ho
  have hpatch : live.applyPatch (modeFields mode) (some device) = .ok (live.defaults,
      .obj (withSettings devices device (withMode override mode)).entries) := by
    have hfold : (modeFields mode).entries.foldlM (SpeechStore.changeField true) override =
        .ok (withMode override mode) := by
      show (do
        let target ← SpeechStore.changeField true override (text "mode", mode)
        List.foldlM (SpeechStore.changeField true) target []) = _
      rw [changeField_mode]
      rfl
    simp only [SpeechStore.applyPatch, hlive, Value.obj?_entries, hoverride]
    show ((modeFields mode).entries.foldlM (SpeechStore.changeField true) override >>= fun target =>
      Except.ok (live.defaults, Value.obj (withSettings devices device target).entries)) = _
    rw [hfold]
    rfl
  have hset : f.set (text "defaults") live.defaults = f := Dict.set_self hdefaults
  simp only [SpeechStore.change, Value.obj?_entries, hload, hpatch]
  show ((live.load (.obj ((f.set (text "defaults") live.defaults).set (text "devices")
    (.obj (withSettings devices device (withMode override mode)).entries)).entries)).2.bind _) = _
  rw [hset]
  rfl

/-- What is known of a change of the mode that was accepted. -/
lemma change_mode_ok {data d mode : Value} {device : Text}
    (h : SpeechStore.change (modeFields mode) (some device) data = .ok d) :
    ∃ (f devices override : Dict Text Value) (live : SpeechStore), data = .obj f.entries ∧
      SpeechStore.blank.load data = (live, .ok ()) ∧
      f.get? (text "devices") = some (.obj devices.entries) ∧
      ((devices.get? device).getD (.obj [])).obj? = some override ∧
      d = withDevices f (withSettings devices device (withMode override mode)) := by
  obtain ⟨live, hload⟩ : ∃ live, SpeechStore.blank.load data = (live, .ok ()) := by
    simp only [SpeechStore.change, bind_eq_ok] at h
    obtain ⟨_, -, u, hload, -⟩ := h
    exact ⟨_, Prod.ext rfl hload⟩
  obtain ⟨f, devices, rfl, -, hdevices, hlive⟩ := SpeechStore.load_fields hload
  obtain ⟨defaults, devices', haccepted⟩ := SpeechStore.load_ok hload
  obtain ⟨override, hoverride, -⟩ := haccepted.override device
  have ho : ((devices.get? device).getD (.obj [])).obj? = some override := by
    simpa only [SpeechStore.override, hlive, Value.obj?_entries, bind_eq_ok, demand_eq_ok,
      Option.some.injEq, exists_eq_left'] using hoverride
  refine ⟨f, devices, override, live, rfl, hload, hdevices, ho, ?_⟩
  rw [change_mode hload hdevices ho] at h
  obtain ⟨u, -, h⟩ := bind_eq_ok.mp h
  exact (Except.ok.inj h).symm

lemma persistedMode_change {data d mode : Value} {device : Text}
    (h : SpeechStore.change (modeFields mode) (some device) data = .ok d) :
    persistedMode (some d) device = present mode := by
  obtain ⟨f, devices, override, live, -, -, -, -, rfl⟩ := change_mode_ok h
  rw [persistedMode_withDevices, withSettings_get?, withMode_get?]

/-- Accepted documents that compare equal keep the same modes. -/
lemma persistedMode_equal {d data : Value} {live live' : SpeechStore}
    (hd : SpeechStore.blank.load d = (live, .ok ()))
    (hdata : SpeechStore.blank.load data = (live', .ok ())) (he : Value.equal d data = true)
    (device : Text) : persistedMode (some d) device = persistedMode (some data) device := by
  obtain ⟨f, devices, rfl, -, hdev, hlive⟩ := SpeechStore.load_fields hd
  obtain ⟨f', devices', rfl, -, hdev', hlive'⟩ := SpeechStore.load_fields hdata
  obtain ⟨defaults, devs, haccepted⟩ := SpeechStore.load_ok hd
  obtain ⟨defaults', devs', haccepted'⟩ := SpeechStore.load_ok hdata
  have hsame : devices = devs := by
    have h := haccepted.devices_obj
    rw [hlive, Value.obj?_entries] at h
    exact Option.some.inj h
  have hsame' : devices' = devs' := by
    have h := haccepted'.devices_obj
    rw [hlive', Value.obj?_entries] at h
    exact Option.some.inj h
  subst hsame hsame'
  have hmodes : ∀ (f devices : Dict Text Value),
      f.get? (text "devices") = some (.obj devices.entries) →
      persistedMode (some (.obj f.entries)) device =
        ((devices.get? device).bind Value.obj?).bind (·.get? (text "mode")) := by
    intro f devices hf
    simp only [persistedMode, Option.bind_eq_bind, Option.bind_some, Value.obj?_entries, hf]
  rw [hmodes f devices hdev, hmodes f' devices' hdev']
  obtain ⟨hnone, -⟩ | ⟨a, b, ha, hb, hab⟩ := Value.get?_of_equal he (text "devices")
  · rw [hdev] at hnone
    cases hnone
  · rw [hdev] at ha
    rw [hdev'] at hb
    cases ha
    cases hb
    obtain ⟨hnone, hnone'⟩ | ⟨v, v', hv, hv', hvv⟩ := Value.get?_of_equal hab device
    · rw [hnone, hnone']
    · obtain ⟨settings, hobj, hfields, -⟩ := haccepted.device device v hv
      obtain ⟨settings', hobj', -, -⟩ := haccepted'.device device v' hv'
      rw [hv, hv', Option.bind_some, Option.bind_some, hobj, hobj', Option.bind_some,
        Option.bind_some]
      rw [Value.obj?_eq_some hobj, Value.obj?_eq_some hobj'] at hvv
      obtain ⟨hnone, hnone'⟩ | ⟨m, m', hm, hm', hmm⟩ := Value.get?_of_equal hvv (text "mode")
      · rw [hnone, hnone']
      · rw [hm, hm']
        obtain rfl | rfl := hfields.mode m hm
        · rw [Value.equal_str hmm]
        · rw [Value.equal_str hmm]

/-- What the object says of a mode is what its document keeps. -/
lemma previousMode_load {d : Value} {live : SpeechStore}
    (h : SpeechStore.blank.load d = (live, .ok ())) (device : Text) :
    previousMode live device = (persistedMode (some d) device).getD .null ∧
      present (previousMode live device) = persistedMode (some d) device := by
  obtain ⟨f, devices, rfl, -, hdev, hlive⟩ := SpeechStore.load_fields h
  obtain ⟨defaults, devs, haccepted⟩ := SpeechStore.load_ok h
  obtain ⟨override, hoverride, hfields, -⟩ := haccepted.override device
  have ho : ((devices.get? device).getD (.obj [])).obj? = some override := by
    simpa only [SpeechStore.override, hlive, Value.obj?_entries, bind_eq_ok, demand_eq_ok,
      Option.some.injEq, exists_eq_left'] using hoverride
  have hmode : persistedMode (some (.obj f.entries)) device = override.get? (text "mode") := by
    simp only [persistedMode, Option.bind_eq_bind, Option.bind_some, Value.obj?_entries, hdev]
    cases hget : devices.get? device with
    | none =>
      rw [hget, Option.getD_none, SpeechStore.obj?_empty] at ho
      cases ho
      rfl
    | some v =>
      rw [hget, Option.getD_some] at ho
      rw [Option.bind_some, ho]
      rfl
  have hprevious : previousMode live device = (override.get? (text "mode")).getD .null := by
    unfold previousMode
    rw [hoverride]
  rw [hmode, hprevious]
  refine ⟨rfl, ?_⟩
  cases hm : override.get? (text "mode") with
  | none => rfl
  | some m =>
    obtain rfl | rfl := hfields.mode m hm
    · rfl
    · rfl

/-- A mode that the object says a device has is one of the two, or none. -/
lemma previousMode_plain {d : Value} {live : SpeechStore}
    (h : SpeechStore.blank.load d = (live, .ok ())) (device : Text) :
    (previousMode live device).Plain := by
  obtain ⟨defaults, devs, haccepted⟩ := SpeechStore.load_ok h
  obtain ⟨override, hoverride, hfields, -⟩ := haccepted.override device
  unfold previousMode
  rw [hoverride]
  dsimp only
  cases hm : override.get? (text "mode") with
  | none => rfl
  | some m =>
    obtain rfl | rfl := hfields.mode m hm
    · exact Value.plain_str.mpr (plain_text "standard")
    · exact Value.plain_str.mpr (plain_text "realtime")

namespace Files

variable {s : Files} {device : Text}

lemma modePatch_clear {mode : Value} (hmode : mode.Plain) (hdevice : device.Plain) :
    Clear (modePatch mode) (some device) := by
  refine ⟨Value.plain_obj.mpr fun k v hmem => ?_, fun d hd => ?_⟩
  · cases List.mem_singleton.mp hmem
    exact ⟨plain_text "mode", hmode⟩
  · cases hd
    exact hdevice

/-- The document with another mode is read back as it is. -/
lemma Kept.change_plain (h : s.Kept) {mode data d : Value} (hmode : mode.Plain)
    (hdevice : device.Plain) (hfile : s.file = some data)
    (hchange : SpeechStore.change (modeFields mode) (some device) data = .ok d) :
    d.readBack = d :=
  SpeechStore.change_plain (Dict.Plain.of_obj (modePatch_clear hmode hdevice).1
    (modePatch_obj? mode)) (modePatch_clear hmode hdevice).2 (h.plain data hfile) hchange

/-- The mode that the object says a device has is the one of the file. -/
lemma Live.previousMode (h : s.Live) (device : Text) :
    present (Speech.previousMode s.live device) = persistedMode s.file device := by
  obtain ⟨data, hfile, ⟨live, hlive⟩, d, hd, hload⟩ := h
  rw [hfile, (previousMode_load hload device).2]
  rcases hd with rfl | hd
  · rfl
  · exact persistedMode_equal hload hlive hd device

lemma Live.previousMode_plain (h : s.Live) (device : Text) :
    (Speech.previousMode s.live device).Plain := by
  obtain ⟨_, _, _, d, _, hload⟩ := h
  exact Speech.previousMode_plain hload device

/-- An update that raises leaves the file, or fails behind the rename. -/
lemma update_raised (h : s.Live) {fault : Fault} {patch : Dict Text Value} {v : Value}
    (hv : v.obj? = some patch) {e : Error}
    (he : (s.update fault v (some device)).2 = .error e) :
    (s.update fault v (some device)).1.file = s.file ∨
      fault = .after ∧ ∃ data d, s.file = some data ∧
        SpeechStore.change patch (some device) data = .ok d ∧
        (s.update fault v (some device)).1.file = some d.readBack := by
  obtain ⟨data, hfile, ⟨live, hlive⟩, d, hd, hload⟩ := h
  obtain ⟨fields, hfields⟩ := SpeechStore.load_obj hlive
  unfold update at he ⊢
  simp only [hv, hfile] at he ⊢
  have hobj : data.obj?.isSome := Option.isSome_iff_exists.mpr ⟨fields, hfields⟩
  split
  next file' result hupdate =>
    rw [hupdate] at he
    obtain ⟨-, e', he'⟩ | ⟨result', hchange, he', -⟩ | ⟨_, -, he', -⟩ :=
      updateJson_cases hobj hupdate
    · cases he'
    · cases he'
      obtain ⟨live', hlive'⟩ := SpeechStore.change_ok hchange
      simp only [SpeechStore.load_blank hlive' s.live] at he
      cases he
    · cases he'
  next file' hupdate =>
    obtain ⟨rfl, -⟩ | ⟨_, -, he', -⟩ | ⟨result, hchange, -, rfl, hafter⟩ :=
      updateJson_cases hobj hupdate
    · exact .inl rfl
    · cases he'
    · exact .inr ⟨hafter, data, result, rfl, hchange, rfl⟩
  next file' e' hos hupdate =>
    obtain ⟨rfl, -⟩ | ⟨_, -, he', -⟩ | ⟨result, -, he', -⟩ := updateJson_cases hobj hupdate
    · exact .inl rfl
    · cases he'
    · cases he'
      exact absurd rfl hos

/-- The file is the one that the rewrite leaves. -/
lemma update_file {v : Value} {patch : Dict Text Value} (hv : v.obj? = some patch)
    (fault : Fault) (device : Option Text) : (s.update fault v device).1.file =
      (updateJson s.file fault (SpeechStore.change patch device)).1 := by
  unfold update
  simp only [hv]
  split
  next hupdate => rw [hupdate]
  next hupdate =>
    rw [hupdate]
    split
    · rfl
    · rfl
  next hupdate => rw [hupdate]

lemma update_returns {v : Value} {patch : Dict Text Value} (hv : v.obj? = some patch)
    {fault : Fault} {device : Option Text} {file : Option Value} {d : Value} {live : SpeechStore}
    (hj : updateJson s.file fault (SpeechStore.change patch device) = (file, .ok d))
    (hd : SpeechStore.blank.load d = (live, .ok ())) :
    (s.update fault v device).2 = .ok () := by
  unfold update
  simp only [hv, hj, SpeechStore.load_blank hd s.live]

lemma update_fails {v : Value} {patch : Dict Text Value} (hv : v.obj? = some patch)
    {fault : Fault} {device : Option Text} {file : Option Value} {e : Error}
    (hj : updateJson s.file fault (SpeechStore.change patch device) = (file, .error e)) :
    ∃ e', (s.update fault v device).2 = .error e' := by
  unfold update
  simp only [hv, hj]
  cases e with
  | os =>
    cases file with
    | none => exact ⟨_, rfl⟩
    | some data =>
      dsimp only
      cases (s.live.load data).2 with
      | error e => exact ⟨e, rfl⟩
      | ok u => exact ⟨.os, rfl⟩
  | _ => exact ⟨_, rfl⟩

/-- A save that fails before the rename leaves the file. -/
lemma update_early (h : s.Live) {fault : Fault} (hf : fault = .lock ∨ fault = .before)
    (mode : Value) (device : Text) :
    (s.update fault (modePatch mode) (some device)).1.file = s.file := by
  obtain ⟨data, hfile, -⟩ := h
  rw [update_file (modePatch_obj? mode), hfile]
  unfold updateJson
  rcases hf with rfl | rfl
  · rfl
  · rw [if_neg (by decide)]
    split
    · rfl
    · split
      · rfl
      · split
        · rfl
        · rfl

/-- A save that reaches the rename has the accepted change in the file. -/
lemma update_late (h : s.Kept) {fault : Fault} (hf : fault = .none ∨ fault = .after)
    {mode data d : Value} (hplain : mode.Plain) (hdevice : device.Plain) (hfile : s.file = some data)
    (hchange : SpeechStore.change (modeFields mode) (some device) data = .ok d) :
    persistedMode (s.update fault (modePatch mode) (some device)).1.file device =
      present mode := by
  obtain ⟨data', hfile', ⟨live, hlive⟩, -⟩ := h.live
  rw [hfile] at hfile'
  cases hfile'
  obtain ⟨fields, hfields⟩ := SpeechStore.load_obj hlive
  obtain ⟨live', hlive'⟩ := SpeechStore.change_ok hchange
  rw [update_file (modePatch_obj? mode), hfile]
  have hmode := persistedMode_change hchange
  have hread := h.change_plain hplain hdevice hfile hchange
  unfold updateJson
  rw [if_neg (by rcases hf with rfl | rfl <;> decide)]
  simp only [Option.getD_some, hfields, hchange]
  split
  next hequal =>
    rw [Bool.and_eq_true] at hequal
    rw [← persistedMode_equal hlive' hlive hequal.1]
    exact hmode
  next =>
    rcases hf with rfl | rfl
    · rw [hread]
      exact hmode
    · rw [hread]
      exact hmode

/-- An update of the mode has the mode in the file where it returns; where it raises, the file is
untouched, or the save failed behind the rename. -/
lemma update_mode (h : s.Kept) (fault : Fault) {mode : Value} (hplain : mode.Plain) {device : Text}
    (hdevice : device.Plain) :
    ((s.update fault (modePatch mode) (some device)).2 = .ok () →
      persistedMode (s.update fault (modePatch mode) (some device)).1.file device =
        present mode) ∧
    ∀ e, (s.update fault (modePatch mode) (some device)).2 = .error e →
      (s.update fault (modePatch mode) (some device)).1.file = s.file ∨ fault = .after ∧
        persistedMode (s.update fault (modePatch mode) (some device)).1.file device =
          present mode := by
  constructor
  · intro hok
    obtain ⟨p, data, d, hp, hfile, hchange, hload, hwrote⟩ :=
      (update_cases h fault (modePatch_clear hplain hdevice)).2 hok
    rw [modePatch_obj?] at hp
    cases hp
    have hmode := persistedMode_change hchange
    rcases hwrote with hwrote | ⟨hsame, hequal⟩
    · rw [hwrote]
      exact hmode
    · obtain ⟨data', hfile', ⟨live, hlive⟩, -⟩ := h.live
      rw [hfile] at hfile'
      cases hfile'
      rw [hsame, ← persistedMode_equal hload hlive hequal]
      exact hmode
  · intro e he
    rcases update_raised h.live (modePatch_obj? mode) he with hsame | ⟨hafter, data, d, hfile,
      hchange, hwrote⟩
    · exact .inl hsame
    · refine .inr ⟨hafter, ?_⟩
      rw [hwrote, h.change_plain hplain hdevice hfile hchange]
      exact persistedMode_change hchange

/-- The mode that was there before an update is accepted again behind it. -/
lemma change_back (h : s.Kept) {fault : Fault} {mode : Text} (hplain : mode.Plain)
    (hdevice : device.Plain)
    (hok : (s.update fault (modePatch (.str mode)) (some device)).2 = .ok ()) :
    ∃ data d, (s.update fault (modePatch (.str mode)) (some device)).1.file = some data ∧
      SpeechStore.change (modeFields (Speech.previousMode s.live device)) (some device) data =
        .ok d := by
  obtain ⟨p, data, d, hp, hfile, hchange, hload, hwrote⟩ :=
    (update_cases h fault (modePatch_clear (Value.plain_str.mpr hplain) hdevice)).2 hok
  rw [modePatch_obj?] at hp
  cases hp
  have hprevious := h.live.previousMode device
  obtain ⟨data', hfile', ⟨live, hlive⟩, -⟩ := h.live
  rw [hfile] at hfile' hprevious
  cases hfile'
  rcases hwrote with hwrote | ⟨hsame, hequal⟩
  · -- what the change of the mode put in, the change back takes out
    refine ⟨d, ?_⟩
    obtain ⟨f, devices, override, live', rfl, hload', hdev, ho, rfl⟩ := change_mode_ok hchange
    have hmode : persistedMode (some (.obj f.entries)) device = override.get? (text "mode") := by
      simp only [persistedMode, Option.bind_eq_bind, Option.bind_some, Value.obj?_entries, hdev]
      cases hget : devices.get? device with
      | none =>
        rw [hget, Option.getD_none, SpeechStore.obj?_empty] at ho
        cases ho
        rfl
      | some v =>
        rw [hget, Option.getD_some] at ho
        rw [Option.bind_some, ho]
        rfl
    rw [hmode] at hprevious
    have hback : withMode (withMode override (.str mode)) (Speech.previousMode s.live device) =
        override := by
      cases hp : Speech.previousMode s.live device with
      | null =>
        rw [hp] at hprevious
        exact Dict.erase_set_of_none hprevious.symm _
      | _ =>
        rw [hp] at hprevious
        exact (Dict.set_set _ _ _ _).trans (Dict.set_self hprevious.symm)
    have hsize : (withMode override (.str mode)).size ≠ 0 := by
      intro hzero
      have hget := withMode_get? override (.str mode)
      rw [Dict.eq_empty_of_size hzero] at hget
      cases hget
    have hdevices : withSettings devices device (withMode override (.str mode)) =
        devices.set device (.obj (withMode override (.str mode)).entries) := if_neg hsize
    rw [hdevices] at hload hwrote ⊢
    have ho' : (((devices.set device (.obj (withMode override (.str mode)).entries)).get?
        device).getD (.obj [])).obj? = some (withMode override (.str mode)) := by
      rw [Dict.get?_set_self, Option.getD_some, Value.obj?_entries]
    obtain ⟨live'', hload''⟩ := SpeechStore.load_fewer (withSettings
      (devices.set device (.obj (withMode override (.str mode)).entries)) device override)
      hload' hdev (by
        intro v hv
        obtain ⟨k, hk⟩ := Dict.mem_values.mp hv
        unfold withSettings at hk
        by_cases hkd : k = device
        · subst hkd
          split at hk
          next =>
            rw [Dict.get?_erase, if_pos rfl] at hk
            cases hk
          next hne =>
            rw [Dict.get?_set_self] at hk
            cases hk
            cases hget : devices.get? k with
            | none =>
              rw [hget, Option.getD_none, SpeechStore.obj?_empty] at ho
              cases ho
              exact absurd rfl hne
            | some w =>
              rw [hget, Option.getD_some] at ho
              rw [← Value.obj?_eq_some ho]
              exact Dict.get?_mem_values hget
        · split at hk
          next =>
            rw [Dict.get?_erase, if_neg hkd, Dict.get?_set_ne (Ne.symm hkd)] at hk
            exact Dict.get?_mem_values hk
          next =>
            rw [Dict.get?_set_ne (Ne.symm hkd), Dict.get?_set_ne (Ne.symm hkd)] at hk
            exact Dict.get?_mem_values hk)
    refine ⟨withDevices f (withSettings (devices.set device
      (.obj (withMode override (.str mode)).entries)) device override), hwrote, ?_⟩
    unfold withDevices at hload
    have hchange' := change_mode hload (Dict.get?_set_self _ _ _) ho'
      (Speech.previousMode s.live device)
    rw [hback] at hchange'
    unfold withDevices at hchange' ⊢
    rw [Dict.set_set] at hchange'
    rw [hchange', SpeechStore.load_blank hload'']
    rfl
  · -- the mode was there already
    refine ⟨data, d, hsame, ?_⟩
    have hmode := persistedMode_change hchange
    rw [persistedMode_equal hload hlive hequal, ← hprevious] at hmode
    have hp : Speech.previousMode s.live device = .str mode := by
      cases hp : Speech.previousMode s.live device with
      | null =>
        rw [hp] at hmode
        cases hmode
      | _ =>
        rw [hp] at hmode
        exact Option.some.inj hmode
    rw [hp]
    exact hchange

/-- Putting the mode back: a save that reaches the rename restores what the file said before, and
one that does not leaves the new mode. -/
lemma update_back (h : s.Kept) (fault : Fault) {mode device : Text} (hplain : mode.Plain)
    (hdevice : device.Plain)
    (hok : (s.update fault (modePatch (.str mode)) (some device)).2 = .ok ()) (back : Fault) :
    persistedMode ((s.update fault (modePatch (.str mode)) (some device)).1.update back
        (modePatch (Speech.previousMode s.live device)) (some device)).1.file device =
      if back = .none ∨ back = .after then persistedMode s.file device
      else some (.str mode) := by
  have hkept := (update_cases h fault (modePatch_clear (Value.plain_str.mpr hplain) hdevice)).1
  obtain ⟨data, d, hfile, hchange⟩ := change_back h hplain hdevice hok
  split
  next hb =>
    rw [update_late hkept hb (h.live.previousMode_plain device) hdevice hfile hchange]
    exact h.live.previousMode device
  next hb =>
    have hearly : back = .lock ∨ back = .before := by
      cases back <;> simp at hb ⊢
    rw [update_early hkept.live hearly]
    exact (update_mode h fault (Value.plain_str.mpr hplain) hdevice).1 hok

end Files

end Vauxr.Speech
