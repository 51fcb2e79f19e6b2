import Mathlib
import Vauxr.Lib.Values

/-!
The named webhooks and their file (`web/webhooks.py`). Every change is made to the list in memory
first, and the file is rewritten from the list.

The id of a new webhook is a parameter of the call that makes it.
-/

namespace Vauxr.Webhooks

open Lib

structure Webhook where
  id : Text
  name : Text
  url : Text
  authorization : Text
  body : Option (Dict Text Value)

/-- A webhook as it is written; an empty secret and an empty body are left out. -/
def Webhook.toValue (w : Webhook) : Value :=
  .obj ([(text "id", .str w.id), (text "name", .str w.name), (text "url", .str w.url)] ++
    (if w.authorization = [] then [] else [(text "authorization", .str w.authorization)]) ++
    ((w.body.filter (·.size ≠ 0)).toList.map fun d => (text "body", .obj d.entries)))

def payload (webhooks : List Webhook) : Value :=
  .obj [(text "webhooks", .arr (webhooks.map Webhook.toValue))]

/-- A row of the file; one without its texts is dropped. -/
def Webhook.ofValue? (item : Value) : Option Webhook := do
  let d ← item.obj?
  let id ← (d.get? (text "id")).bind Value.str?
  let name ← (d.get? (text "name")).bind Value.str?
  let url ← (d.get? (text "url")).bind Value.str?
  return ⟨id, name, url, ((d.get? (text "authorization")).bind Value.str?).getD [],
    (d.get? (text "body")).bind Value.obj?⟩

/-- The rows of a file; nothing where it is missing or cannot be parsed. -/
def entries (file : Option Value) : List Value :=
  match file with
  | none => []
  | some raw =>
    match raw.obj? with
    | some d => ((d.get? (text "webhooks")).bind Value.arr?).getD []
    | none => raw.arr?.getD []

def load (file : Option Value) : List Webhook := (entries file).filterMap Webhook.ofValue?

/-- The file and the list in memory. -/
structure Store where
  file : Option Value
  webhooks : List Webhook

/-- What an update sets; a missing field is left as it is. -/
structure Fields where
  name : Option Text
  url : Option Text
  authorization : Option Text
  body : Option (Option (Dict Text Value))

inductive Call
  | create (id name url authorization : Text) (body : Option (Dict Text Value))
  | update (id : Text) (fields : Fields)
  | remove (id : Text)
  | duplicate (id copy : Text)

inductive Outcome
  | returned (hook : Option Webhook)
  | removed (found : Bool)
  | raised

def Webhook.patch (w : Webhook) (fields : Fields) : Webhook where
  id := w.id
  name := (fields.name.map Text.strip).getD w.name
  url := (fields.url.map Text.strip).getD w.url
  authorization := (fields.authorization.map Text.strip).getD w.authorization
  body := fields.body.getD w.body

/-- The first webhook with the id is changed. -/
def patchFirst (id : Text) (fields : Fields) : List Webhook → List Webhook
  | [] => []
  | w :: rest => if w.id = id then w.patch fields :: rest else w :: patchFirst id fields rest

/-- `f"{name} copy {n}"` -/
def copyName (name : Text) (n : ℕ) : Text := name ++ text " copy " ++ text (toString n)

/-- The first name from `n` on that is not taken; as many tries as there are names and one more. -/
def numbered (taken : List Text) (name : Text) : ℕ → ℕ → Text
  | 0, n => copyName name n
  | fuel + 1, n => if copyName name n ∈ taken then numbered taken name fuel (n + 1)
      else copyName name n

/-- `_unique_copy_name` -/
def uniqueCopyName (webhooks : List Webhook) (name : Text) : Text :=
  let taken := webhooks.map Webhook.name
  if name ++ text " copy" ∈ taken then numbered taken name (taken.length + 1) 2
  else name ++ text " copy"

namespace Store

/-- `get` -/
def get (s : Store) (id : Text) : Option Webhook := s.webhooks.find? (·.id = id)

/-- `_save`, which may fail before the rename. -/
def save (s : Store) (fails : Bool) (outcome : Outcome) : Store × Outcome :=
  if fails then (s, .raised) else ({ s with file := some (payload s.webhooks) }, outcome)

def create (s : Store) (fails : Bool) (id name url authorization : Text)
    (body : Option (Dict Text Value)) : Store × Outcome :=
  let hook : Webhook := ⟨id, name.strip, url.strip, authorization.strip, body⟩
  { s with webhooks := s.webhooks ++ [hook] }.save fails (.returned (some hook))

def step (s : Store) (fails : Bool) : Call → Store × Outcome
  | .create id name url authorization body => s.create fails id name url authorization body
  | .update id fields =>
    match s.get id with
    | none => (s, .returned none)
    | some hook => { s with webhooks := patchFirst id fields s.webhooks }.save fails
        (.returned (some (hook.patch fields)))
  | .remove id =>
    let webhooks := s.webhooks.filter (·.id ≠ id)
    if webhooks.length = s.webhooks.length then (s, .removed false)
    else { s with webhooks }.save fails (.removed true)
  | .duplicate id copy =>
    match s.get id with
    | none => (s, .returned none)
    | some hook => s.create fails copy (uniqueCopyName s.webhooks hook.name) hook.url
        hook.authorization hook.body

/-- The call gets as far as the save. -/
def Saves (s : Store) : Call → Prop
  | .create .. => True
  | .update id _ | .remove id | .duplicate id _ => ∃ hook, s.get id = some hook

/-- The call sets what is there already. -/
def Unchanging (s : Store) : Call → Prop
  | .update id fields => ∀ hook, s.get id = some hook → hook.patch fields = hook
  | _ => False

/-- The list stands for the file: it would be written as what the file holds. -/
def Synced (s : Store) : Prop := payload s.webhooks = payload (load s.file)

/-! ### The file -/

section

variable {s : Store}

lemma get_cons (k : Text) (v : Value) (l : List (Text × Value)) (k' : Text) :
    Dict.find k' ((k, v) :: l) = if k = k' then some v else Dict.find k' l := rfl

/-- The fields of a written webhook. -/
def fields (w : Webhook) : List (Text × Value) :=
  [(text "id", .str w.id), (text "name", .str w.name), (text "url", .str w.url)] ++
    (if w.authorization = [] then [] else [(text "authorization", .str w.authorization)]) ++
    ((w.body.filter (·.size ≠ 0)).toList.map fun d => (text "body", .obj d.entries))

lemma fields_nodup (w : Webhook) : ((fields w).map Prod.fst).Nodup := by
  unfold fields
  cases hb : w.body.filter (·.size ≠ 0) with
  | none =>
    split
    · simp +decide
    · simp +decide
  | some d =>
    split
    · simp +decide
    · simp +decide

/-- A webhook as it is read back: an empty body is none. -/
def saved (w : Webhook) : Webhook := { w with body := w.body.filter (·.size ≠ 0) }

lemma ofValue?_toValue (w : Webhook) : Webhook.ofValue? w.toValue = some (saved w) := by
  have hobj : w.toValue.obj? = some ⟨fields w, fields_nodup w⟩ :=
    Value.obj?_entries ⟨fields w, fields_nodup w⟩
  have hget : ∀ k, (⟨fields w, fields_nodup w⟩ : Dict Text Value).get? k =
      Dict.find k (fields w) := fun _ => rfl
  have hid : Dict.find (text "id") (fields w) = some (.str w.id) := by
    simp +decide [fields, get_cons]
  have hname : Dict.find (text "name") (fields w) = some (.str w.name) := by
    simp +decide [fields, get_cons]
  have hurl : Dict.find (text "url") (fields w) = some (.str w.url) := by
    simp +decide [fields, get_cons]
  have hauth : ((Dict.find (text "authorization") (fields w)).bind Value.str?).getD [] =
      w.authorization := by
    unfold fields
    by_cases ha : w.authorization = []
    · cases hb : w.body.filter (·.size ≠ 0) with
      | none => simp +decide [ha, get_cons, Dict.find]
      | some d => simp +decide [ha, get_cons, Dict.find]
    · simp +decide [ha, get_cons, Value.str?]
  have hbody : (Dict.find (text "body") (fields w)).bind Value.obj? =
      w.body.filter (·.size ≠ 0) := by
    unfold fields
    by_cases ha : w.authorization = []
    · cases hb : w.body.filter (·.size ≠ 0) with
      | none => simp +decide [ha, get_cons, Dict.find]
      | some d => simp +decide [ha, get_cons, Value.obj?_entries]
    · cases hb : w.body.filter (·.size ≠ 0) with
      | none => simp +decide [ha, get_cons, Dict.find]
      | some d => simp +decide [ha, get_cons, Value.obj?_entries]
  unfold Webhook.ofValue?
  simp only [hobj, Option.bind_eq_bind, Option.bind_some, hget, hid, hname, hurl, hauth, hbody,
    Value.str?]
  rfl

lemma toValue_saved (w : Webhook) : (saved w).toValue = w.toValue := by
  unfold Webhook.toValue saved
  rw [Option.filter_filter]
  simp only [Bool.and_self]

lemma load_payload (webhooks : List Webhook) :
    load (some (payload webhooks)) = webhooks.map saved := by
  have hentries : entries (some (payload webhooks)) = webhooks.map Webhook.toValue := by
    have hobj : (payload webhooks).obj? = some ⟨[(text "webhooks",
        .arr (webhooks.map Webhook.toValue))], List.nodup_singleton _⟩ :=
      Value.obj?_entries ⟨[(text "webhooks", .arr (webhooks.map Webhook.toValue))],
        List.nodup_singleton _⟩
    simp only [entries, hobj]
    rfl
  rw [load, hentries, List.filterMap_map]
  have hsaved : Webhook.ofValue? ∘ Webhook.toValue = some ∘ saved := by
    funext w
    exact ofValue?_toValue w
  rw [hsaved, List.filterMap_eq_map]

lemma payload_saved (webhooks : List Webhook) :
    payload (webhooks.map saved) = payload webhooks := by
  unfold payload
  rw [List.map_map]
  have hsame : Webhook.toValue ∘ saved = Webhook.toValue := by
    funext w
    exact toValue_saved w
  rw [hsame]

/-- A list that has just been loaded stands for its file. -/
lemma synced_load (file : Option Value) : (⟨file, load file⟩ : Store).Synced := rfl

/-- A save that does not fail leaves a list that stands for its file. -/
lemma synced_save (s : Store) (outcome : Outcome) : (s.save false outcome).1.Synced := by
  show payload s.webhooks = payload (load (some (payload s.webhooks)))
  rw [load_payload, payload_saved]

/-- A call that does not fail keeps the list and the file together. -/
lemma synced_step (hs : s.Synced) (c : Call) : (s.step false c).1.Synced := by
  cases c with
  | create => exact synced_save _ _
  | update id fields =>
    cases hget : s.get id with
    | none =>
      simp only [step, hget]
      exact hs
    | some hook =>
      simp only [step, hget]
      exact synced_save _ _
  | remove id =>
    unfold step
    dsimp only
    split
    · exact hs
    · exact synced_save _ _
  | duplicate id copy =>
    cases hget : s.get id with
    | none =>
      simp only [step, hget]
      exact hs
    | some hook =>
      simp only [step, hget]
      exact synced_save _ _

/-! ### Saves that fail -/

/-- What is left where the save fails: the list is changed all the same. -/
lemma step_fails {c : Call} (hc : s.Saves c) : (s.step true c).2 = .raised ∧
    (s.step true c).1.file = s.file ∧ (s.step true c).1.webhooks = (s.step false c).1.webhooks := by
  cases c with
  | create => exact ⟨rfl, rfl, rfl⟩
  | update id fields =>
    obtain ⟨hook, hget⟩ := hc
    simp only [step, hget]
    exact ⟨rfl, rfl, rfl⟩
  | remove id =>
    obtain ⟨hook, hget⟩ := hc
    have hlen : (s.webhooks.filter (·.id ≠ id)).length ≠ s.webhooks.length := by
      intro heq
      have hall := List.length_filter_eq_length_iff.mp heq
      have hne := hall hook (List.mem_of_find?_eq_some hget)
      have heq' := List.find?_some hget
      simp only [decide_eq_true_eq] at hne heq'
      exact hne heq'
    simp only [step, if_neg hlen]
    exact ⟨rfl, rfl, rfl⟩
  | duplicate id copy =>
    obtain ⟨hook, hget⟩ := hc
    simp only [step, hget]
    exact ⟨rfl, rfl, rfl⟩

lemma patchFirst_eq {id : Text} {fields : Fields} {webhooks : List Webhook} {hook : Webhook}
    (h : webhooks.find? (·.id = id) = some hook) :
    patchFirst id fields webhooks = webhooks ↔ hook.patch fields = hook := by
  induction webhooks with
  | nil => cases h
  | cons w rest ih =>
    rw [List.find?_cons] at h
    by_cases hid : w.id = id
    · simp only [hid, decide_true] at h
      cases h
      rw [patchFirst, if_pos hid]
      exact ⟨fun heq => (List.cons.inj heq).1, fun heq => by rw [heq]⟩
    · simp only [hid, decide_false] at h
      rw [patchFirst, if_neg hid, List.cons.injEq, ih h]
      exact and_iff_right rfl

/-- The list is the old one exactly where the call changes nothing. -/
lemma step_webhooks {c : Call} (hc : s.Saves c) :
    (s.step false c).1.webhooks = s.webhooks ↔ s.Unchanging c := by
  have happend : ∀ hook : Webhook, s.webhooks ++ [hook] ≠ s.webhooks := by
    intro hook heq
    have hlen := congrArg List.length heq
    simp at hlen
  cases c with
  | create => exact iff_of_false (happend _) id
  | update id fields =>
    obtain ⟨hook, hget⟩ := hc
    simp only [step, hget, Unchanging, Option.some.injEq, forall_eq']
    exact patchFirst_eq hget
  | remove id =>
    refine iff_of_false (fun heq => ?_) (fun h => h)
    obtain ⟨hook, hget⟩ := hc
    have hmem := List.mem_of_find?_eq_some hget
    have hid := List.find?_some hget
    simp only [step] at heq
    have hwebhooks : s.webhooks.filter (·.id ≠ id) = s.webhooks := by
      split at heq
      next hlen =>
        exact List.filter_eq_self.mpr (List.length_filter_eq_length_iff.mp hlen)
      next => exact heq
    have hne := List.filter_eq_self.mp hwebhooks hook hmem
    simp only [decide_eq_true_eq] at hne hid
    exact hne hid
  | duplicate id copy =>
    obtain ⟨hook, hget⟩ := hc
    refine iff_of_false (fun heq => ?_) (fun h => h)
    simp only [step, hget] at heq
    exact happend _ heq

end

end Store

/-- **A save that fails leaves the list alone exactly where the call changes nothing**: the list is
then the one before the call and the one of the file, and a later call does what it would have done
without the failed one. -/
theorem failed_save_keeps (s : Store) (c : Call) (hs : s.Synced) (hc : s.Saves c) :
    (((s.step true c).1.webhooks = s.webhooks ∧ (s.step true c).1.Synced ∧
      ∀ later, ((s.step true c).1.step false later).1.file = (s.step false later).1.file) ↔
        s.Unchanging c) ∧
      (s.step true c).2 = .raised ∧ (s.step true c).1.file = s.file := by
  obtain ⟨hraised, hfile, hwebhooks⟩ := Store.step_fails hc
  refine ⟨⟨fun h => ?_, fun h => ?_⟩, hraised, hfile⟩
  · exact (Store.step_webhooks hc).mp (hwebhooks.symm.trans h.1)
  · have hsame := hwebhooks.trans ((Store.step_webhooks hc).mpr h)
    have hstate : (s.step true c).1 = s := by
      cases hstep : (s.step true c).1 with
      | mk file webhooks =>
        rw [hstep] at hfile hsame
        cases hfile
        cases hsame
        rfl
    rw [hstate]
    exact ⟨rfl, hs, fun _ => rfl⟩

def sampleHook : Webhook := ⟨text "wh_1", text "n", text "http://h", [], none⟩

def sampleStore : Store := ⟨some (payload [sampleHook]), [sampleHook]⟩

theorem failed_save_keeps_sample : (sampleStore.step true (.update (text "wh_1")
    ⟨some (text " n "), none, none, none⟩)).1.webhooks = sampleStore.webhooks := by
  have hget : sampleStore.get (text "wh_1") = some sampleHook := rfl
  refine ((failed_save_keeps sampleStore (.update (text "wh_1") ⟨some (text " n "), none, none,
    none⟩) ?_ ⟨sampleHook, hget⟩).1.mpr ?_).1
  · show payload [sampleHook] = payload (load (some (payload [sampleHook])))
    rw [Store.load_payload, Store.payload_saved]
  · intro hook h
    rw [hget] at h
    cases h
    rfl

/-- A webhook whose creation was reported as failed is written by the next creation. -/
theorem failed_creation_persists : ¬ ∀ (s : Store) (c : Call), s.Synced → s.Saves c →
    (s.step true c).1.webhooks = s.webhooks ∧
      ∀ later, ((s.step true c).1.step false later).1.file = (s.step false later).1.file := by
  intro h
  have hlist := (h ⟨none, []⟩ (.create (text "wh_1") (text "n") (text "http://h") [] none) rfl
    trivial).1
  cases hlist

end Vauxr.Webhooks
