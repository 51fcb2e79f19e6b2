import Vauxr.Lib.Values
import Vauxr.Devices.Update

/-!
The round trip of the device settings. What the updates write is read back as it stands in memory,
and the strict loader of the next start takes it, exactly when every name in it can be displayed and
no text in it holds a high surrogate directly before a low one: the handlers take any string for a
name, and the loader does not.
-/

namespace Vauxr.Devices

open Lib

/-! ### Reading a written object -/

lemma find_append {α : Type} (k : Text) (l l' : List (Text × α)) :
    Dict.find k (l ++ l') = (Dict.find k l).or (Dict.find k l') := by
  induction l with
  | nil => rfl
  | cons e l ih =>
    obtain ⟨k', a⟩ := e
    by_cases hk : k' = k
    · simp [Dict.find, hk]
    · simp [Dict.find, hk, ih]

lemma find_field (k : Text) (key : String) (v : Option Value) :
    Dict.find k (field key v) = if text key = k then v else none := by
  cases v with
  | none => simp [field, Dict.find]
  | some v => by_cases h : text key = k <;> simp [field, Dict.find, h]

lemma keys_field (key : String) (v : Option Value) :
    List.Sublist ((field key v).map Prod.fst) [text key] := by
  cases v <;> simp [field]

lemma obj?_obj {l : List (Text × Value)} (h : (l.map Prod.fst).Nodup) :
    (Value.obj l).obj? = some ⟨l, h⟩ := by
  simp [Value.obj?, Dict.ofEntries?, h]

/-! ### Button actions -/

lemma ofText?_value (m : FollowUpMode) : FollowUpMode.ofText? m.value = some m := by
  cases m <;> decide

lemma ofText?_name (g : Gesture) : Gesture.ofText? (text g.name) = some g := by
  cases g <;> decide

lemma stripped?_str (t : Stripped) : stripped? (some (.str t.1)) = some t := by
  obtain ⟨t, hs, hne⟩ := t
  simp [stripped?, Value.str?, hs, hne]

lemma volume?_int (v : Fin 101) : volume? (some (.int v.1)) = some v := by
  simp [volume?, Value.int?]
  omega

/-- An action that was parsed parses again. -/
lemma parseButtonAction_toValue (a : ButtonAction) :
    parseButtonAction a.toValue = .ok (some a) := by
  cases a with
  | prompt t =>
    have hd := obj?_obj (l := [(text "kind", .str (text "prompt")), (text "text", .str t.1)])
      (by show List.Nodup [text "kind", text "text"]; decide)
    simp only [parseButtonAction, ButtonAction.toValue, hd]
    refine bind_eq_ok.mpr ⟨_, rfl, bind_eq_ok.mpr ⟨text "prompt", rfl, ?_⟩⟩
    rw [if_neg (by decide), if_pos rfl]
    exact bind_eq_ok.mpr ⟨t, congrArg (demand · _) (stripped?_str t), rfl⟩
  | announce t =>
    have hd := obj?_obj (l := [(text "kind", .str (text "announce")), (text "text", .str t.1)])
      (by show List.Nodup [text "kind", text "text"]; decide)
    simp only [parseButtonAction, ButtonAction.toValue, hd]
    refine bind_eq_ok.mpr ⟨_, rfl, bind_eq_ok.mpr ⟨text "announce", rfl, ?_⟩⟩
    rw [if_neg (by decide), if_neg (by decide), if_pos rfl]
    exact bind_eq_ok.mpr ⟨t, congrArg (demand · _) (stripped?_str t), rfl⟩
  | webhook t =>
    have hd := obj?_obj (l := [(text "kind", .str (text "webhook")), (text "webhook_id", .str t.1)])
      (by show List.Nodup [text "kind", text "webhook_id"]; decide)
    simp only [parseButtonAction, ButtonAction.toValue, hd]
    refine bind_eq_ok.mpr ⟨_, rfl, bind_eq_ok.mpr ⟨text "webhook", rfl, ?_⟩⟩
    rw [if_neg (by decide), if_neg (by decide), if_neg (by decide), if_neg (by decide), if_pos rfl]
    exact bind_eq_ok.mpr ⟨t, congrArg (demand · _) (stripped?_str t), rfl⟩
  | command c =>
    cases c with
    | setVolume v =>
      have hd := obj?_obj (l := [(text "kind", .str (text "command")),
        (text "command", .str (text "set_volume")), (text "volume", .int v.1)])
        (by show List.Nodup [text "kind", text "command", text "volume"]; decide)
      simp only [parseButtonAction, ButtonAction.toValue, Command.fields, hd]
      refine bind_eq_ok.mpr ⟨_, rfl, bind_eq_ok.mpr ⟨text "command", rfl, ?_⟩⟩
      rw [if_neg (by decide), if_neg (by decide), if_neg (by decide), if_pos rfl]
      refine bind_eq_ok.mpr ⟨text "set_volume", rfl, ?_⟩
      rw [if_pos rfl]
      exact bind_eq_ok.mpr ⟨v, congrArg (demand · _) (volume?_int v), rfl⟩
    | mute | unmute | reboot => rfl

lemma nodup_actions (a b c : Option Value) :
    ((field Gesture.doublePress.name a ++ field Gesture.triplePress.name b ++
      field Gesture.longPress.name c).map Prod.fst).Nodup := by
  have h : List.Nodup ([text Gesture.doublePress.name] ++ [text Gesture.triplePress.name] ++
      [text Gesture.longPress.name]) := by decide
  simp only [List.map_append]
  exact h.sublist (((keys_field _ a).append (keys_field _ b)).append (keys_field _ c))

/-- A written map of actions opens, and its gestures read back. -/
lemma actions_obj? (actions : ButtonActions) : ∃ d, actions.toValue.obj? = some d ∧
    d.entries = field Gesture.doublePress.name (actions.doublePress.map ButtonAction.toValue) ++
      field Gesture.triplePress.name (actions.triplePress.map ButtonAction.toValue) ++
      field Gesture.longPress.name (actions.longPress.map ButtonAction.toValue) :=
  ⟨_, obj?_obj (nodup_actions _ _ _), rfl⟩

lemma parseGesture_toValue (out : ButtonActions) (g : Gesture) (a : ButtonAction) :
    parseGesture out (text g.name, a.toValue) = .ok (out.set a g) := by
  simp only [parseGesture, parseButtonAction_toValue]
  exact bind_eq_ok.mpr ⟨g, congrArg (demand · _) (ofText?_name g), rfl⟩

/-- The actions that were parsed parse again. -/
lemma parseButtonActions_toValue (actions : ButtonActions) :
    parseButtonActions actions.toValue = .ok actions := by
  obtain ⟨d, hd, he⟩ := actions_obj? actions
  simp only [parseButtonActions, hd]
  refine bind_eq_ok.mpr ⟨d, rfl, ?_⟩
  rw [he]
  obtain ⟨a, b, c⟩ := actions
  cases a <;> cases b <;> cases c <;>
    simp [field, parseGesture_toValue, ButtonActions.set, ButtonActions.empty] <;> rfl

lemma sanitizeButtonActions_toValue (actions : ButtonActions) :
    sanitizeButtonActions actions.toValue = actions := by
  obtain ⟨d, hd, he⟩ := actions_obj? actions
  obtain ⟨a, b, c⟩ := actions
  have hget : d.get? (text Gesture.doublePress.name) = a.map ButtonAction.toValue ∧
      d.get? (text Gesture.triplePress.name) = b.map ButtonAction.toValue ∧
      d.get? (text Gesture.longPress.name) = c.map ButtonAction.toValue := by
    simp only [Dict.get?, he]
    cases a <;> cases b <;> cases c <;> simp +decide [find_append, find_field]
  simp only [sanitizeButtonActions, hd, Option.bind_eq_bind, Option.bind_some, hget]
  cases a <;> cases b <;> cases c <;>
    simp [parseButtonAction_toValue, Except.toOption]

/-! ### Settings -/

lemma sublist_keys (cfg : DeviceConfig) : List.Sublist (cfg.fields.map Prod.fst) knownFields := by
  have h := ((((((keys_field "transport_mode" (cfg.transportMode.map fun m => .str m.value)).append
    (keys_field "name" (cfg.name.map .str))).append
    (keys_field "voice" (cfg.voice.map .bool))).append
    (keys_field "follow_up_mode" (cfg.followUpMode.map fun m => .str m.value))).append
    (keys_field "output_sample_rate" (cfg.outputSampleRate.map .int))).append
    (keys_field "barge_in" (cfg.bargeIn.map .bool))).append
    (keys_field "button_actions" (cfg.buttonActions.map ButtonActions.toValue))
  simp only [DeviceConfig.fields, List.map_append]
  exact h

lemma nodup_config (cfg : DeviceConfig) : (cfg.fields.map Prod.fst).Nodup := by
  have h : knownFields.Nodup := by decide
  exact h.sublist (sublist_keys cfg)

/-- Written settings open as the object they were written as. -/
lemma config_obj? (cfg : DeviceConfig) : cfg.toValue.obj? = some ⟨cfg.fields, nodup_config cfg⟩ :=
  obj?_obj (nodup_config cfg)

/-- The settings keep what the loaders rely on: a rate is positive. -/
def DeviceConfig.Sound (cfg : DeviceConfig) : Prop := ∀ n ∈ cfg.outputSampleRate, 0 < n

/-- The fields of written settings, key by key. -/
lemma find_fields (cfg : DeviceConfig) (k : Text) : Dict.find k cfg.fields =
    ((((((if text "transport_mode" = k then cfg.transportMode.map fun m => .str m.value else none).or
      (if text "name" = k then cfg.name.map .str else none)).or
      (if text "voice" = k then cfg.voice.map .bool else none)).or
      (if text "follow_up_mode" = k then cfg.followUpMode.map fun m => .str m.value else none)).or
      (if text "output_sample_rate" = k then cfg.outputSampleRate.map .int else none)).or
      (if text "barge_in" = k then cfg.bargeIn.map .bool else none)).or
      (if text "button_actions" = k then cfg.buttonActions.map ButtonActions.toValue else none) := by
  simp only [DeviceConfig.fields, find_append, find_field]

/-- What was written is read back, without an empty map of actions. -/
lemma sanitizeEntry_toValue {cfg : DeviceConfig} (hcfg : cfg.Sound) :
    sanitizeEntry cfg.toValue = cfg.withoutEmptyActions := by
  have h1 : (⟨cfg.fields, nodup_config cfg⟩ : Dict Text Value).get? (text "transport_mode") =
      cfg.transportMode.map fun m => .str m.value := by
    simp +decide [Dict.get?, find_fields]
  have h2 : (⟨cfg.fields, nodup_config cfg⟩ : Dict Text Value).get? (text "name") =
      cfg.name.map .str := by
    simp +decide [Dict.get?, find_fields]
  have h3 : (⟨cfg.fields, nodup_config cfg⟩ : Dict Text Value).get? (text "voice") =
      cfg.voice.map .bool := by
    simp +decide [Dict.get?, find_fields]
  have h4 : (⟨cfg.fields, nodup_config cfg⟩ : Dict Text Value).get? (text "follow_up_mode") =
      cfg.followUpMode.map fun m => .str m.value := by
    simp +decide [Dict.get?, find_fields]
  have h5 : (⟨cfg.fields, nodup_config cfg⟩ : Dict Text Value).get? (text "output_sample_rate") =
      cfg.outputSampleRate.map .int := by
    simp +decide [Dict.get?, find_fields]
  have h6 : (⟨cfg.fields, nodup_config cfg⟩ : Dict Text Value).get? (text "barge_in") =
      cfg.bargeIn.map .bool := by
    simp +decide [Dict.get?, find_fields]
  have h7 : (⟨cfg.fields, nodup_config cfg⟩ : Dict Text Value).get? (text "button_actions") =
      cfg.buttonActions.map ButtonActions.toValue := by
    simp +decide [Dict.get?, find_fields]
  unfold sanitizeEntry
  rw [config_obj?]
  simp only [h1, h2, h3, h4, h5, h6, h7]
  obtain ⟨transport, name, voice, mode, rate, barge, actions⟩ := cfg
  simp only [DeviceConfig.withoutEmptyActions, DeviceConfig.mk.injEq]
  refine ⟨?_, ?_, ?_, ?_, ?_, ?_, ?_⟩
  · cases transport with
    | none => rfl
    | some m => cases m <;> rfl
  · cases name <;> rfl
  · cases voice <;> rfl
  · cases mode with
    | none => rfl
    | some m => simp [Value.str?, ofText?_value]
  · cases rate with
    | none => rfl
    | some n => simp [sanitizeRate, hcfg n rfl]
  · cases barge <;> rfl
  · simp [Function.comp_def, sanitizeButtonActions_toValue]

lemma forall_mem_field {P : Text × Value → Prop} (key : String) (v : Option Value) :
    (∀ item ∈ field key v, P item) ↔ ∀ x ∈ v, P (text key, x) := by
  cases v <;> simp [field]

/-- The strict checks take written settings exactly when their name can be displayed. -/
lemma validField_fields {cfg : DeviceConfig} (hcfg : cfg.Sound) :
    (∀ item ∈ cfg.fields, validField item.1 item.2 = true) ↔
      ∀ n ∈ cfg.name, displayName n = true := by
  simp only [DeviceConfig.fields, List.forall_mem_append, forall_mem_field]
  have hname : (∀ x ∈ cfg.name.map Value.str, validField (text "name") x = true) ↔
      ∀ n ∈ cfg.name, displayName n = true := by
    cases cfg.name with
    | none => simp
    | some n => simp +decide [validField, Value.str?]
  rw [hname]
  refine ⟨fun h => h.1.1.1.1.1.2, fun h => ⟨⟨⟨⟨⟨⟨?_, h⟩, ?_⟩, ?_⟩, ?_⟩, ?_⟩, ?_⟩⟩
  · intro x hx
    obtain ⟨m, -, rfl⟩ := Option.mem_map.mp hx
    cases m <;> rfl
  · intro x hx
    obtain ⟨b, -, rfl⟩ := Option.mem_map.mp hx
    rfl
  · intro x hx
    obtain ⟨m, -, rfl⟩ := Option.mem_map.mp hx
    simp +decide [validField, Value.str?, ofText?_value]
  · intro x hx
    obtain ⟨n, hn, rfl⟩ := Option.mem_map.mp hx
    simp +decide [validField, Value.int?, hcfg n hn]
  · intro x hx
    obtain ⟨b, -, rfl⟩ := Option.mem_map.mp hx
    rfl
  · intro x hx
    obtain ⟨actions, -, rfl⟩ := Option.mem_map.mp hx
    simp +decide [validField, parseButtonActions_toValue, Except.toOption]

lemma checkEntry_toValue {cfg : DeviceConfig} (hcfg : cfg.Sound) :
    checkEntry cfg.toValue = .ok () ↔ ∀ n ∈ cfg.name, displayName n = true := by
  have hknown : (Dict.keys (⟨cfg.fields, nodup_config cfg⟩ : Dict Text Value)).all
      (· ∈ knownFields) = true := by
    rw [List.all_eq_true]
    exact fun k hk => decide_eq_true ((sublist_keys cfg).subset hk)
  rw [← validField_fields hcfg]
  unfold checkEntry
  rw [config_obj?, Option.filter_some, if_pos hknown]
  refine forM_eq_ok.trans (forall₂_congr fun item _ => ?_)
  simp only [checkField, refuse_eq_ok, Bool.not_eq_false']

/-! ### Texts that are read back as they are -/

def ButtonAction.Plain : ButtonAction → Prop
  | .prompt t | .announce t | .webhook t => t.1.Plain
  | .command _ => True

def ButtonActions.Plain (actions : ButtonActions) : Prop :=
  (∀ a ∈ actions.doublePress, a.Plain) ∧ (∀ a ∈ actions.triplePress, a.Plain) ∧
    ∀ a ∈ actions.longPress, a.Plain

/-- No text of the settings is changed by writing and reading them. -/
structure DeviceConfig.Plain (cfg : DeviceConfig) : Prop where
  name : ∀ n ∈ cfg.name, n.Plain
  actions : ∀ actions ∈ cfg.buttonActions, actions.Plain

lemma ButtonAction.Plain.toValue {a : ButtonAction} (h : a.Plain) : a.toValue.Plain := by
  cases a with
  | prompt t | announce t | webhook t =>
    have ht : t.1.readBack = t.1 := h
    simp [ButtonAction.toValue, Value.Plain, Value.readBack, Value.readBackFields, ht]
  | command c =>
    cases c <;>
      simp [ButtonAction.toValue, Command.fields, Value.Plain, Value.readBack, Value.readBackFields]

lemma plain_field (key : String) {v : Option Value} (h : ∀ x ∈ v, x.Plain) :
    ∀ item ∈ field key v, item.1.Plain ∧ item.2.Plain :=
  (forall_mem_field key v).mpr fun x hx => ⟨plain_text key, h x hx⟩

lemma ButtonActions.Plain.toValue {actions : ButtonActions} (h : actions.Plain) :
    actions.toValue.Plain := by
  have hmap : ∀ action : Option ButtonAction, (∀ a ∈ action, a.Plain) →
      ∀ x ∈ action.map ButtonAction.toValue, x.Plain := by
    intro action ha x hx
    obtain ⟨a, hmem, rfl⟩ := Option.mem_map.mp hx
    exact (ha a hmem).toValue
  refine Value.plain_obj.mpr fun k v hmem => ?_
  rcases List.mem_append.mp hmem with hmem | hmem
  · rcases List.mem_append.mp hmem with hmem | hmem
    · exact plain_field _ (hmap _ h.1) _ hmem
    · exact plain_field _ (hmap _ h.2.1) _ hmem
  · exact plain_field _ (hmap _ h.2.2) _ hmem

lemma DeviceConfig.Plain.toValue {cfg : DeviceConfig} (h : cfg.Plain) : cfg.toValue.Plain := by
  refine Value.plain_obj.mpr ?_
  suffices hall : ∀ item ∈ cfg.fields, item.1.Plain ∧ item.2.Plain from
    fun k v hmem => hall (k, v) hmem
  simp only [DeviceConfig.fields, List.forall_mem_append]
  refine ⟨⟨⟨⟨⟨⟨?_, ?_⟩, ?_⟩, ?_⟩, ?_⟩, ?_⟩, ?_⟩
  · refine plain_field _ fun x hx => ?_
    obtain ⟨m, -, rfl⟩ := Option.mem_map.mp hx
    cases m <;> exact Value.plain_str.mpr (plain_text _)
  · refine plain_field _ fun x hx => ?_
    obtain ⟨n, hn, rfl⟩ := Option.mem_map.mp hx
    exact Value.plain_str.mpr (h.name n hn)
  · refine plain_field _ fun x hx => ?_
    obtain ⟨b, -, rfl⟩ := Option.mem_map.mp hx
    rfl
  · refine plain_field _ fun x hx => ?_
    obtain ⟨m, -, rfl⟩ := Option.mem_map.mp hx
    cases m <;> exact Value.plain_str.mpr (plain_text _)
  · refine plain_field _ fun x hx => ?_
    obtain ⟨n, -, rfl⟩ := Option.mem_map.mp hx
    rfl
  · refine plain_field _ fun x hx => ?_
    obtain ⟨b, -, rfl⟩ := Option.mem_map.mp hx
    rfl
  · refine plain_field _ fun x hx => ?_
    obtain ⟨actions, hmem, rfl⟩ := Option.mem_map.mp hx
    exact (h.actions actions hmem).toValue

lemma plain_of_stripped {t : Stripped} (h : stripped? (some (.str t.1.readBack)) = some t) :
    t.1.Plain := by
  unfold stripped? at h
  obtain ⟨t', ht', h⟩ := Option.bind_eq_some_iff.mp h
  cases ht'
  split at h
  · exact Text.plain_of_strip (congrArg Subtype.val (Option.some.inj h))
  · cases h

/-- A text that is parsed as it was when it is written and read is one that reading leaves. -/
lemma plain_of_parse {a : ButtonAction}
    (h : parseButtonAction a.toValue.readBack = .ok (some a)) : a.Plain := by
  cases a with
  | command c => trivial
  | prompt t =>
    have hd := obj?_obj
      (l := [(text "kind", .str (text "prompt")), (text "text", .str t.1.readBack)])
      (by show List.Nodup [text "kind", text "text"]; decide)
    simp only [ButtonAction.toValue, Value.readBack, Value.readBackFields, readBack_text,
      parseButtonAction, hd] at h
    obtain ⟨d, hsame, h⟩ := bind_eq_ok.mp h
    cases hsame
    obtain ⟨kind, hkind, h⟩ := bind_eq_ok.mp h
    obtain rfl : text "prompt" = kind := Except.ok.inj hkind
    rw [if_neg (by decide), if_pos rfl] at h
    obtain ⟨t', ht', h⟩ := bind_eq_ok.mp h
    cases h
    exact plain_of_stripped (demand_eq_ok.mp ht')
  | announce t =>
    have hd := obj?_obj
      (l := [(text "kind", .str (text "announce")), (text "text", .str t.1.readBack)])
      (by show List.Nodup [text "kind", text "text"]; decide)
    simp only [ButtonAction.toValue, Value.readBack, Value.readBackFields, readBack_text,
      parseButtonAction, hd] at h
    obtain ⟨d, hsame, h⟩ := bind_eq_ok.mp h
    cases hsame
    obtain ⟨kind, hkind, h⟩ := bind_eq_ok.mp h
    obtain rfl : text "announce" = kind := Except.ok.inj hkind
    rw [if_neg (by decide), if_neg (by decide), if_pos rfl] at h
    obtain ⟨t', ht', h⟩ := bind_eq_ok.mp h
    cases h
    exact plain_of_stripped (demand_eq_ok.mp ht')
  | webhook t =>
    have hd := obj?_obj (l := [(text "kind", .str (text "webhook")),
      (text "webhook_id", .str t.1.readBack)])
      (by show List.Nodup [text "kind", text "webhook_id"]; decide)
    simp only [ButtonAction.toValue, Value.readBack, Value.readBackFields, readBack_text,
      parseButtonAction, hd] at h
    obtain ⟨d, hsame, h⟩ := bind_eq_ok.mp h
    cases hsame
    obtain ⟨kind, hkind, h⟩ := bind_eq_ok.mp h
    obtain rfl : text "webhook" = kind := Except.ok.inj hkind
    rw [if_neg (by decide), if_neg (by decide), if_neg (by decide), if_neg (by decide), if_pos rfl]
      at h
    obtain ⟨t', ht', h⟩ := bind_eq_ok.mp h
    cases h
    exact plain_of_stripped (demand_eq_ok.mp ht')

/-- Actions that are sanitized to what they were hold texts that reading leaves. -/
lemma plain_of_sanitize {actions : ButtonActions}
    (h : sanitizeButtonActions actions.toValue.readBack = actions) : actions.Plain := by
  obtain ⟨d, hd, he⟩ := actions_obj? actions
  have hkeys : ∀ k ∈ d.keys, k.Plain := by
    intro k hk
    obtain ⟨e, hmem, rfl⟩ := List.mem_map.mp hk
    rw [he] at hmem
    rcases List.mem_append.mp hmem with hmem | hmem
    · rcases List.mem_append.mp hmem with hmem | hmem
      · exact List.mem_singleton.mp ((keys_field _ _).subset (List.mem_map_of_mem hmem)) ▸
          plain_text _
      · exact List.mem_singleton.mp ((keys_field _ _).subset (List.mem_map_of_mem hmem)) ▸
          plain_text _
    · exact List.mem_singleton.mp ((keys_field _ _).subset (List.mem_map_of_mem hmem)) ▸
        plain_text _
  have hread := Value.obj?_readBack hd hkeys
  obtain ⟨a, b, c⟩ := actions
  have hget : d.get? (text Gesture.doublePress.name) = a.map ButtonAction.toValue ∧
      d.get? (text Gesture.triplePress.name) = b.map ButtonAction.toValue ∧
      d.get? (text Gesture.longPress.name) = c.map ButtonAction.toValue := by
    simp only [Dict.get?, he]
    cases a <;> cases b <;> cases c <;> simp +decide [find_append, find_field]
  simp only [sanitizeButtonActions, hread, Option.bind_eq_bind, Option.bind_some, Dict.get?_map,
    hget, ButtonActions.mk.injEq] at h
  have hparse : ∀ action : Option ButtonAction,
      ((action.map ButtonAction.toValue).map Value.readBack).bind
        (fun v => (parseButtonAction v).toOption.join) = action → ∀ x ∈ action, x.Plain := by
    intro action haction x hx
    cases hx
    rw [Option.map_some, Option.map_some, Option.bind_some] at haction
    cases hp : parseButtonAction x.toValue.readBack with
    | error e =>
      rw [hp] at haction
      cases haction
    | ok r =>
      rw [hp] at haction
      have hr : r = some x := haction
      rw [hr] at hp
      exact plain_of_parse hp
  exact ⟨hparse a h.1, hparse b h.2.1, hparse c h.2.2⟩

/-! ### What is read holds such texts -/

lemma plain_stripped {v : Option Value} {t : Stripped} (hv : ∀ x ∈ v, x.Plain)
    (h : stripped? v = some t) : t.1.Plain := by
  obtain ⟨t', ht', h⟩ := Option.bind_eq_some_iff.mp h
  obtain ⟨x, hx, hstr⟩ := Option.bind_eq_some_iff.mp ht'
  have hplain := hv x hx
  cases x <;> cases hstr
  split at h
  · cases h
    exact (Value.plain_str.mp hplain).strip
  · cases h

lemma parseButtonAction_plain {raw : Value} {a : ButtonAction} (hraw : raw.Plain)
    (h : parseButtonAction raw = .ok (some a)) : a.Plain := by
  unfold parseButtonAction at h
  obtain ⟨d, hd, h⟩ := bind_eq_ok.mp h
  have hplain := Dict.Plain.of_obj hraw (demand_eq_ok.mp hd)
  have htext : ∀ {key : String} {message : String} {t : Stripped},
      demand (stripped? (d.get? (text key))) message = .ok t → t.1.Plain := fun ht =>
    plain_stripped (fun x hx => (hplain _ x hx).2) (demand_eq_ok.mp ht)
  obtain ⟨kind, -, h⟩ := bind_eq_ok.mp h
  split at h
  · cases h
  split at h
  · obtain ⟨t, ht, h⟩ := bind_eq_ok.mp h
    cases h
    exact htext ht
  split at h
  · obtain ⟨t, ht, h⟩ := bind_eq_ok.mp h
    cases h
    exact htext ht
  split at h
  · obtain ⟨command, -, h⟩ := bind_eq_ok.mp h
    split at h
    · obtain ⟨volume, -, h⟩ := bind_eq_ok.mp h
      cases h
      trivial
    · repeat' split at h
      all_goals first | (cases h; trivial) | cases h
  split at h
  · obtain ⟨t, ht, h⟩ := bind_eq_ok.mp h
    cases h
    exact htext ht
  · cases h

lemma sanitizeButtonActions_plain {raw : Value} (hraw : raw.Plain) :
    (sanitizeButtonActions raw).Plain := by
  have hall : ∀ key : String, ∀ a, (do
      let d ← raw.obj?
      let v ← d.get? (text key)
      (parseButtonAction v).toOption.join) = some a → a.Plain := by
    intro key a ha
    obtain ⟨d, hd, ha⟩ := Option.bind_eq_some_iff.mp ha
    obtain ⟨v, hv, ha⟩ := Option.bind_eq_some_iff.mp ha
    cases hp : parseButtonAction v with
    | error e =>
      rw [hp] at ha
      cases ha
    | ok r =>
      rw [hp] at ha
      have hr : r = some a := ha
      rw [hr] at hp
      exact parseButtonAction_plain (Dict.Plain.of_obj hraw hd _ v hv).2 hp
  exact ⟨hall _, hall _, hall _⟩

lemma sanitizeEntry_plain {raw : Value} (hraw : raw.Plain) : (sanitizeEntry raw).Plain := by
  unfold sanitizeEntry
  cases hobj : raw.obj? with
  | none => exact ⟨fun n hn => (by cases hn), fun a ha => (by cases ha)⟩
  | some d =>
    have hd := Dict.Plain.of_obj hraw hobj
    refine ⟨fun n hn => ?_, fun actions hactions => ?_⟩
    · obtain ⟨v, hv, hstr⟩ := Option.bind_eq_some_iff.mp hn
      have hplain := (hd _ v hv).2
      cases v <;> cases hstr
      exact Value.plain_str.mp hplain
    · obtain ⟨hmem, -⟩ := Option.filter_eq_some_iff.mp hactions
      obtain ⟨v, hv, rfl⟩ := Option.map_eq_some_iff.mp hmem
      exact sanitizeButtonActions_plain (hd _ v hv).2

/-! ### The file -/

/-- All the settings can be written and read back. -/
def Sound (configs : Dict Text DeviceConfig) : Prop :=
  ∀ device cfg, configs.get? device = some cfg → cfg.Sound

lemma save_obj? (configs : Dict Text DeviceConfig) :
    (save configs).obj? = some (configs.map fun _ cfg => cfg.toValue) := by
  have hn := (configs.map fun _ cfg => DeviceConfig.toValue cfg).nodup
  exact obj?_obj hn

lemma loadStrict_json {v : Value} {r : File × Dict Text DeviceConfig} :
    loadStrict (.json v) = .ok r ↔ ∃ d, v.obj? = some d ∧
      (∀ entry ∈ d.values, checkEntry entry = .ok ()) ∧ r = (.json v, sanitizeEntries d) := by
  simp only [loadStrict, bind_eq_ok, demand_eq_ok]
  refine exists_congr fun d => and_congr_right fun _ => ?_
  rw [← forM_eq_ok]
  constructor
  · rintro ⟨u, hc, hr⟩
    exact ⟨hc, (Except.ok.inj hr).symm⟩
  · rintro ⟨hc, rfl⟩
    exact ⟨_, hc, rfl⟩

lemma sanitizeEntries_save {configs : Dict Text DeviceConfig} (hs : Sound configs) (device : Text) :
    (sanitizeEntries (configs.map fun _ cfg => cfg.toValue)).get? device =
      (configs.get? device).map DeviceConfig.withoutEmptyActions := by
  rw [sanitizeEntries, Dict.get?_map, Dict.get?_map, Option.map_map]
  cases h : configs.get? device with
  | none => rfl
  | some cfg => exact congrArg some (sanitizeEntry_toValue (hs device cfg h))

/-- The names that are there can all be displayed. -/
def Displayable (configs : Dict Text DeviceConfig) : Prop :=
  ∀ device cfg, configs.get? device = some cfg → ∀ n ∈ cfg.name, displayName n = true

/-- **The strict loader on a written file**: it takes the file exactly when every name can be
displayed. -/
theorem loadStrict_save {configs : Dict Text DeviceConfig} (hs : Sound configs) :
    (∃ r, loadStrict (.json (save configs)) = .ok r) ↔ Displayable configs := by
  have hv : ∀ entry, entry ∈ (configs.map fun _ cfg => DeviceConfig.toValue cfg).values ↔
      ∃ device cfg, configs.get? device = some cfg ∧ cfg.toValue = entry := fun _ =>
    Dict.mem_values_map
  constructor
  · rintro ⟨r, hr⟩ device cfg hget
    obtain ⟨d, hd, hc, -⟩ := loadStrict_json.mp hr
    rw [save_obj?] at hd
    cases hd
    exact (checkEntry_toValue (hs device cfg hget)).mp (hc _ ((hv _).mpr ⟨device, cfg, hget, rfl⟩))
  · intro h
    refine ⟨_, loadStrict_json.mpr ⟨_, save_obj? configs, fun entry he => ?_, rfl⟩⟩
    obtain ⟨device, cfg, hget, rfl⟩ := (hv _).mp he
    exact (checkEntry_toValue (hs device cfg hget)).mpr (h device cfg hget)

/-! ### What the strict loader reads -/

/-- Settings as the strict loader leaves them. -/
structure Loaded (cfg : DeviceConfig) : Prop where
  sound : cfg.Sound
  name : ∀ n ∈ cfg.name, displayName n = true
  actions : cfg.withoutEmptyActions = cfg
  plain : cfg.Plain

lemma checkEntry_loaded {raw : Value} (hraw : raw.Plain) (h : checkEntry raw = .ok ()) :
    Loaded (sanitizeEntry raw) := by
  have hplain := sanitizeEntry_plain hraw
  unfold checkEntry at h
  obtain ⟨d, hd, hc⟩ := bind_eq_ok.mp h
  rw [demand_eq_ok, Option.filter_eq_some_iff] at hd
  have hfield : ∀ k v, d.get? k = some v → validField k v = true := by
    intro k v hk
    have := forM_eq_ok.mp hc (k, v) (Dict.mem_entries.mpr hk)
    simpa only [checkField, refuse_eq_ok, Bool.not_eq_false'] using this
  unfold sanitizeEntry at hplain ⊢
  rw [hd.1] at hplain ⊢
  refine ⟨fun n hn => ?_, fun n hn => ?_, ?_, hplain⟩
  · obtain ⟨v, hv, hn⟩ := Option.bind_eq_some_iff.mp hn
    have hvalid := hfield _ _ hv
    cases v with
    | int m =>
      have hm : 0 < m := by simpa +decide [validField, Value.int?] using hvalid
      rw [sanitizeRate, if_pos hm] at hn
      exact Option.some.inj hn ▸ hm
    | _ => simp +decide [validField, Value.int?] at hvalid
  · obtain ⟨v, hv, hn⟩ := Option.bind_eq_some_iff.mp hn
    have hvalid := hfield _ _ hv
    simpa +decide [validField, hn] using hvalid
  · simp [DeviceConfig.withoutEmptyActions]

/-- A parser has handed the document over. -/
def File.Parsed (file : File) : Prop := ∀ v, file = .json v → v.Plain

lemma loadStrict_loaded {file file' : File} {configs : Dict Text DeviceConfig}
    (hparsed : file.Parsed) (h : loadStrict file = .ok (file', configs)) :
    (∀ device cfg, configs.get? device = some cfg → device.Plain ∧ Loaded cfg) ∧
      loadStrict file' = .ok (file', configs) := by
  cases file with
  | unreadable => cases h
  | missing =>
    cases h
    exact ⟨fun device cfg h => (nomatch h), rfl⟩
  | json v =>
    obtain ⟨d, hd, hc, he⟩ := loadStrict_json.mp h
    obtain ⟨rfl, rfl⟩ := Prod.mk.inj he
    refine ⟨fun device cfg hget => ?_, h⟩
    rw [sanitizeEntries, Dict.get?_map_some] at hget
    obtain ⟨raw, hraw, rfl⟩ := hget
    obtain ⟨hdevice, hplain⟩ := Dict.Plain.of_obj (hparsed v rfl) hd device raw hraw
    exact ⟨hdevice, checkEntry_loaded hplain (hc raw (Dict.get?_mem_values hraw))⟩

/-! ### What a written file is read as -/

/-- The next start takes the file, and reads the settings that are in memory. -/
def State.RoundTrips (s : State) : Prop :=
  ∃ file loaded, loadStrict s.file = .ok (file, loaded) ∧
    ∀ device, loaded.get? device = (s.configs.get? device).map DeviceConfig.withoutEmptyActions

/-- Names can be displayed, and texts are read back as they are. -/
def Readable (configs : Dict Text DeviceConfig) : Prop :=
  ∀ device cfg, configs.get? device = some cfg →
    (∀ n ∈ cfg.name, displayName n = true) ∧ cfg.Plain

/-- The ids of the devices are read back as they are. -/
def Known (configs : Dict Text DeviceConfig) : Prop :=
  ∀ device cfg, configs.get? device = some cfg → device.Plain

lemma save_plain {configs : Dict Text DeviceConfig} (hk : Known configs)
    (h : ∀ device cfg, configs.get? device = some cfg → cfg.Plain) : (save configs).Plain := by
  refine Value.plain_obj.mpr fun k v hmem => ?_
  obtain ⟨⟨device, cfg⟩, he, heq⟩ := List.mem_map.mp hmem
  cases heq
  have hget := Dict.mem_entries.mp he
  exact ⟨hk device cfg hget, (h device cfg hget).toValue⟩

/-- Settings that are sanitized to what they were hold texts that reading leaves. -/
lemma plain_of_sanitizeEntry {cfg : DeviceConfig}
    (h : sanitizeEntry cfg.toValue.readBack = cfg.withoutEmptyActions) : cfg.Plain := by
  have hkeys : ∀ k ∈ (⟨cfg.fields, nodup_config cfg⟩ : Dict Text Value).keys, k.Plain := by
    intro k hk
    obtain ⟨key, -, rfl⟩ := List.mem_map.mp ((sublist_keys cfg).subset hk)
    exact plain_text key
  have hread := Value.obj?_readBack (config_obj? cfg) hkeys
  have hname : (⟨cfg.fields, nodup_config cfg⟩ : Dict Text Value).get? (text "name") =
      cfg.name.map .str := by
    simp +decide [Dict.get?, find_fields]
  have hactions : (⟨cfg.fields, nodup_config cfg⟩ : Dict Text Value).get? (text "button_actions") =
      cfg.buttonActions.map ButtonActions.toValue := by
    simp +decide [Dict.get?, find_fields]
  unfold sanitizeEntry at h
  rw [hread] at h
  constructor
  · intro n hn
    have hsame := congrArg DeviceConfig.name h
    rw [Option.mem_def] at hn
    simp only [Dict.get?_map, hname, hn, DeviceConfig.withoutEmptyActions, Option.map_some,
      Option.bind_some, Value.readBack, Value.str?, Option.some.injEq] at hsame
    exact hsame
  · intro actions ha
    have hsame := congrArg DeviceConfig.buttonActions h
    rw [Option.mem_def] at ha
    simp only [Dict.get?_map, hactions, ha, DeviceConfig.withoutEmptyActions, Option.map_some] at hsame
    by_cases hempty : actions = .empty
    · subst hempty
      exact ⟨fun a ha => (by cases ha), fun a ha => (by cases ha), fun a ha => (by cases ha)⟩
    · rw [Option.filter_some (a := actions), if_pos (by simpa using hempty)] at hsame
      exact plain_of_sanitize (Option.some.inj (Option.filter_eq_some_iff.mp hsame).1)

/-- **The strict loader on a written file**: it reads what was written exactly when the settings are
readable. -/
lemma roundTrips_iff {s : State} (hs : Sound s.configs) (hk : Known s.configs)
    (hfile : s.file = .json (save s.configs).readBack) : s.RoundTrips ↔ Readable s.configs := by
  have hplain : (∀ device cfg, s.configs.get? device = some cfg → cfg.Plain) →
      s.file = .json (save s.configs) := by
    intro h
    rw [hfile, (save_plain hk h : (save s.configs).readBack = save s.configs)]
  constructor
  · rintro ⟨file, loaded, hload, hget⟩
    have hkeys : ∀ k ∈ (s.configs.map fun _ cfg => cfg.toValue).keys, k.Plain := by
      intro k hk'
      obtain ⟨v, hv⟩ := Dict.mem_keys.mp hk'
      rw [Dict.get?_map] at hv
      obtain ⟨cfg, hcfg, -⟩ := Option.map_eq_some_iff.mp hv
      exact hk k cfg hcfg
    have hall : ∀ device cfg, s.configs.get? device = some cfg → cfg.Plain := by
      intro device cfg hcfg
      have hload' := hload
      rw [hfile] at hload'
      obtain ⟨d, hd, -, he⟩ := loadStrict_json.mp hload'
      rw [Value.obj?_readBack (save_obj? s.configs) hkeys] at hd
      cases hd
      have hsame := hget device
      rw [(Prod.mk.inj he).2, sanitizeEntries, Dict.get?_map, Dict.get?_map, Dict.get?_map, hcfg]
        at hsame
      exact plain_of_sanitizeEntry (Option.some.inj hsame)
    rw [hplain hall] at hload
    exact fun device cfg hcfg =>
      ⟨(loadStrict_save hs).mp ⟨_, hload⟩ device cfg hcfg, hall device cfg hcfg⟩
  · intro h
    have hfile' := hplain fun device cfg hcfg => (h device cfg hcfg).2
    obtain ⟨⟨file, loaded⟩, hload⟩ := (loadStrict_save hs).mpr fun device cfg hcfg =>
      (h device cfg hcfg).1
    refine ⟨file, loaded, by rw [hfile']; exact hload, fun device => ?_⟩
    obtain ⟨d, hd, -, he⟩ := loadStrict_json.mp hload
    rw [save_obj?] at hd
    cases hd
    rw [(Prod.mk.inj he).2]
    exact sanitizeEntries_save hs device

/-! ### Runs of accepted updates -/

/-- The requests are all accepted, one after the other. -/
inductive Accepts : State → List Request → State → Prop
  | nil (s : State) : Accepts s [] s
  | cons {s s' s'' : State} {r : Request} {rs : List Request} :
    step s r = (.ok (), s') → Accepts s' rs s'' → Accepts s (r :: rs) s''

/-- A process that started on some file and has accepted some updates. -/
structure UpdateRun where
  file : File
  parsed : file.Parsed
  initial : State
  started : start file = .ok initial
  requests : List Request
  final : State
  accepted : Accepts initial requests final

section

variable {α : Type} (part : DeviceConfig → Option α)

/-- What a request asks for in one part of the settings. -/
def Request.asked (r : Request) : Option α :=
  match r.asks with
  | .ok (some patch) => part patch.config
  | _ => none

def lastAfter (last : Text → Option α) (r : Request) : Text → Option α :=
  fun device => if device = text r.device then (r.asked part).or (last device) else last device

/-- What was asked for last, device by device. -/
def lastAsked (rs : List Request) : Text → Option α := rs.foldl (lastAfter part) fun _ => none

/-- A device has what was asked for last, or what it started with. -/
def Tracks (initial : Dict Text DeviceConfig) (last : Text → Option α)
    (configs : Dict Text DeviceConfig) : Prop :=
  ∀ device, (configs.get? device).bind part = (last device).or ((initial.get? device).bind part)

end

def lastNames : List Request → Text → Option Text := lastAsked DeviceConfig.name

def lastActions : List Request → Text → Option ButtonActions := lastAsked DeviceConfig.buttonActions

lemma Tracks.update {α : Type} {part : DeviceConfig → Option α} {initial : Dict Text DeviceConfig}
    {last : Text → Option α} {configs : Dict Text DeviceConfig} (h : Tracks part initial last configs)
    (hmerge : ∀ old new : DeviceConfig, part (old.merge new) = (part new).or (part old))
    (hempty : part .empty = none) {r : Request} {patch : Patch} (hask : r.asks = .ok (some patch)) :
    Tracks part initial (lastAfter part last r) (configs.set (text r.device)
      (((configs.get? (text r.device)).getD .empty).merge patch.config)) := by
  intro device
  have hasked : r.asked part = part patch.config := by
    unfold Request.asked
    rw [hask]
  unfold lastAfter
  rw [Dict.get?_set, hasked]
  by_cases hd : device = text r.device
  · subst hd
    have hold : part ((configs.get? (text r.device)).getD .empty) =
        (configs.get? (text r.device)).bind part := by
      cases configs.get? (text r.device) with
      | none => exact hempty
      | some cfg => rfl
    rw [if_pos rfl, if_pos rfl, Option.bind_some, hmerge, hold, h, Option.or_assoc]
  · rw [if_neg (Ne.symm hd), if_neg hd]
    exact h device

/-- What the updates so far have left. -/
structure Updated (initial : Dict Text DeviceConfig) (names : Text → Option Text)
    (actions : Text → Option ButtonActions) (s : State) : Prop where
  sound : Sound s.configs
  known : Known s.configs
  named : Tracks DeviceConfig.name initial names s.configs
  acted : Tracks DeviceConfig.buttonActions initial actions s.configs
  file : s.file = .json (save s.configs).readBack ∨
    s.RoundTrips ∧ ∀ device, names device = none ∧ actions device = none

lemma start_loaded {file : File} {s : State} (hparsed : file.Parsed) (h : start file = .ok s) :
    (∀ device cfg, s.configs.get? device = some cfg → device.Plain ∧ Loaded cfg) ∧
      loadStrict s.file = .ok (s.file, s.configs) := by
  obtain ⟨⟨file', configs⟩, hload, rfl⟩ := map_eq_ok.mp h
  exact loadStrict_loaded hparsed hload

lemma start_updated {file : File} {s : State} (hparsed : file.Parsed) (h : start file = .ok s) :
    Updated s.configs (fun _ => none) (fun _ => none) s := by
  obtain ⟨hloaded, hagain⟩ := start_loaded hparsed h
  refine ⟨fun device cfg hget => (hloaded device cfg hget).2.sound,
    fun device cfg hget => (hloaded device cfg hget).1, fun device => rfl, fun device => rfl,
    .inr ⟨⟨_, _, hagain, fun device => ?_⟩, fun device => ⟨rfl, rfl⟩⟩⟩
  cases hget : s.configs.get? device with
  | none => rfl
  | some cfg => exact congrArg some (hloaded device cfg hget).2.actions.symm

lemma updateDevice_rate {body : Option Value} {patch : Patch} (h : updateDevice body = .ok patch) :
    patch.config.outputSampleRate = none := by
  simp only [updateDevice, bind_eq_ok] at h
  obtain ⟨d, -, voiceMode, -, pipelineMode, -, name, -, voice, -, followUpMode, -, bargeIn, -,
    actions, -, h⟩ := h
  cases h
  cases voiceMode with
  | none => rfl
  | some mode => cases mode <;> rfl

lemma deviceCommand_rate {body : Option Value} {patch : Patch}
    (h : deviceCommand body = .ok (some patch)) : patch.config.outputSampleRate = none := by
  simp only [deviceCommand, bind_eq_ok] at h
  obtain ⟨j, -, d, -, command, -, h⟩ := h
  split at h
  · simp only [bind_eq_ok] at h
    obtain ⟨params, -, enabled, -, b, -, h⟩ := h
    cases h
    rfl
  · split at h <;> cases h

/-- No update sets a rate. -/
lemma asks_rate {r : Request} {patch : Patch} (h : r.asks = .ok (some patch)) :
    patch.config.outputSampleRate = none := by
  unfold Request.asks at h
  obtain ⟨-, -, h⟩ := bind_eq_ok.mp h
  split at h
  · obtain ⟨patch', hp, he⟩ := bind_eq_ok.mp h
    cases he
    exact updateDevice_rate hp
  · exact deviceCommand_rate h

lemma updateConfig_accepted {s s' : State} {speech : Speech} {fault : WriteFault} {device : Text}
    {patch : Patch} (h : updateConfig s speech fault device patch = (.ok (), s')) :
    s'.configs = s.configs.set device
      (((s.configs.get? device).getD .empty).merge patch.config) ∧
      s'.file = .json (save s'.configs).readBack := by
  unfold updateConfig at h
  dsimp only at h
  split at h
  · cases h
  · cases h
  · cases fault with
    | none =>
      cases h
      exact ⟨rfl, rfl⟩
    | before => cases h
    | after => cases h

/-- One accepted update. -/
lemma step_updated {initial : Dict Text DeviceConfig} {names : Text → Option Text}
    {actions : Text → Option ButtonActions} {s s' : State} {r : Request}
    (hs : Updated initial names actions s) (h : step s r = (.ok (), s')) :
    Updated initial (lastAfter DeviceConfig.name names r)
      (lastAfter DeviceConfig.buttonActions actions r) s' := by
  unfold step at h
  split at h
  · cases h
  · next hask =>
    cases h
    have hsame : ∀ {α : Type} (part : DeviceConfig → Option α) (last : Text → Option α),
        lastAfter part last r = last := by
      intro α part last
      funext device
      have hnone : r.asked part = none := by
        unfold Request.asked
        rw [hask]
      unfold lastAfter
      rw [hnone, Option.none_or, ite_self]
    rw [hsame, hsame]
    exact hs
  · next patch hask =>
    obtain ⟨hconfigs, hfile⟩ := updateConfig_accepted h
    have hget : ∀ device, s'.configs.get? device = if text r.device = device then
        some (((s.configs.get? (text r.device)).getD .empty).merge patch.config)
        else s.configs.get? device := by
      intro device
      rw [hconfigs, Dict.get?_set]
    refine ⟨fun device cfg hcfg => ?_, fun device cfg hcfg => ?_, ?_, ?_, .inl hfile⟩
    · rw [hget] at hcfg
      by_cases hd : text r.device = device
      · rw [if_pos hd] at hcfg
        cases hcfg
        intro n hn
        rw [DeviceConfig.merge, asks_rate hask] at hn
        cases hold : s.configs.get? (text r.device) with
        | none =>
          rw [hold] at hn
          cases hn
        | some old =>
          rw [hold] at hn
          exact hs.sound _ old hold n hn
      · rw [if_neg hd] at hcfg
        exact hs.sound device cfg hcfg
    · rw [hget] at hcfg
      by_cases hd : text r.device = device
      · exact hd ▸ plain_text r.device
      · rw [if_neg hd] at hcfg
        exact hs.known device cfg hcfg
    · rw [hconfigs]
      exact hs.named.update (fun old new => Option.orElse_eq_or) rfl hask
    · rw [hconfigs]
      exact hs.acted.update (fun old new => Option.orElse_eq_or) rfl hask

lemma accepts_updated {initial : Dict Text DeviceConfig} {s s' : State} {rs : List Request}
    (h : Accepts s rs s') : ∀ names actions, Updated initial names actions s →
      Updated initial (rs.foldl (lastAfter DeviceConfig.name) names)
        (rs.foldl (lastAfter DeviceConfig.buttonActions) actions) s' := by
  induction h with
  | nil s => exact fun names actions hs => hs
  | cons hstep _ ih => exact fun names actions hs => ih _ _ (step_updated hs hstep)

/-- What holds of every value of a part that was asked for last, and of what was there from the
start, holds of what is there now, and the other way round. -/
lemma Tracks.forall_iff {α : Type} {part : DeviceConfig → Option α}
    {initial configs : Dict Text DeviceConfig} {last : Text → Option α}
    (h : Tracks part initial last configs) {P : α → Prop}
    (hinitial : ∀ device cfg, initial.get? device = some cfg → ∀ a ∈ part cfg, P a) :
    (∀ device cfg, configs.get? device = some cfg → ∀ a ∈ part cfg, P a) ↔
      ∀ device a, last device = some a → P a := by
  constructor
  · intro hall device a ha
    have hnow : (configs.get? device).bind part = some a := by
      rw [h, ha, Option.some_or]
    obtain ⟨cfg, hcfg, hpart⟩ := Option.bind_eq_some_iff.mp hnow
    exact hall device cfg hcfg a hpart
  · intro hall device cfg hcfg a ha
    have hnow := h device
    rw [hcfg, Option.bind_some, ha] at hnow
    cases hlast : last device with
    | some a' =>
      rw [hlast, Option.some_or] at hnow
      cases hnow
      exact hall device a hlast
    | none =>
      rw [hlast, Option.none_or] at hnow
      obtain ⟨old, hold, hpart⟩ := Option.bind_eq_some_iff.mp hnow.symm
      exact hinitial device old hold a hpart

/-- **The round trip of the settings**: after any accepted updates the next start takes the file and
reads what is in memory, exactly when the last name set for each device can be displayed, and
neither it nor a text of the last button actions holds a high surrogate right before a low one. -/
theorem settings_round_trip (u : UpdateRun) :
    u.final.RoundTrips ↔
      (∀ device n, lastNames u.requests device = some n → displayName n = true ∧ n.Plain) ∧
        ∀ device actions, lastActions u.requests device = some actions → actions.Plain := by
  have hu := accepts_updated u.accepted _ _ (start_updated u.parsed u.started)
  have hloaded := (start_loaded u.parsed u.started).1
  rcases hu.file with hfile | ⟨hround, hnone⟩
  · have hnames := hu.named.forall_iff (P := fun n => displayName n = true ∧ n.Plain)
      fun device cfg hcfg n hn => ⟨(hloaded device cfg hcfg).2.name n hn,
        (hloaded device cfg hcfg).2.plain.name n hn⟩
    have hactions := hu.acted.forall_iff (P := ButtonActions.Plain)
      fun device cfg hcfg => (hloaded device cfg hcfg).2.plain.actions
    rw [roundTrips_iff hu.sound hu.known hfile]
    refine Iff.trans ?_ (and_congr hnames hactions)
    constructor
    · intro h
      exact ⟨fun device cfg hcfg n hn => ⟨(h device cfg hcfg).1 n hn, (h device cfg hcfg).2.name n hn⟩,
        fun device cfg hcfg => (h device cfg hcfg).2.actions⟩
    · rintro ⟨hn, ha⟩ device cfg hcfg
      exact ⟨fun n hmem => (hn device cfg hcfg n hmem).1,
        ⟨fun n hmem => (hn device cfg hcfg n hmem).2, ha device cfg hcfg⟩⟩
  · refine iff_of_true hround ⟨fun device n hn => ?_, fun device actions ha => ?_⟩
    · rw [show lastNames u.requests device = none from (hnone device).1] at hn
      cases hn
    · rw [show lastActions u.requests device = none from (hnone device).2] at ha
      cases ha

lemma missing_parsed : File.missing.Parsed := fun _ h => by cases h

/-- A name with a control character, set on a fresh server. -/
def badName : UpdateRun where
  file := .missing
  parsed := missing_parsed
  initial := ⟨.json (.obj []), Dict.empty⟩
  started := rfl
  requests := [⟨"dev", true, true, some (.obj [(text "name", .str [0])]), .taken, .none⟩]
  final := ⟨.json (save (Dict.empty.set (text "dev")
    { DeviceConfig.empty with name := some [0] })).readBack,
    Dict.empty.set (text "dev") { DeviceConfig.empty with name := some [0] }⟩
  accepted := .cons rfl (.nil _)

/-- The next start refuses the file that it leaves. -/
theorem badName_refused :
    loadStrict badName.final.file = .error ⟨"devices.*.name",
      "invalid device setting; see the device settings schema"⟩ ∧ ¬badName.final.RoundTrips := by
  have h : loadStrict badName.final.file = .error ⟨"devices.*.name",
      "invalid device setting; see the device settings schema"⟩ := by rfl
  refine ⟨h, ?_⟩
  rintro ⟨file, loaded, hok, -⟩
  rw [h] at hok
  cases hok

end Vauxr.Devices
