import Vauxr.Agents
import Vauxr.CodecClosure
import Vauxr.Lib.JsonEqual

/-!
The file `agents.json` and what the process keeps of it (`agents/registry.py`): the strict decoder,
the encoder, and the calls that rewrite the file under its lock, each of which may fail before or
after the new file is renamed into place (`config_files.py`).
-/

namespace Vauxr

open Lib

namespace Agents

/-! ### The document as JSON -/

def AgentType.value : AgentType → String
  | .openclaw => "openclaw"
  | .openclawDirect => "openclaw-direct"

def AgentType.ofValue? : String → Option AgentType
  | "openclaw" => some .openclaw
  | "openclaw-direct" => some .openclawDirect
  | _ => none

def encodeRow (a : Agent) : Json :=
  .obj ([("id", .str a.id), ("name", .str a.name), ("type", .str a.type.value),
    ("createdAt", .str a.createdAt)] ++ (a.builtin.toList.map fun b => ("builtin", .bool b)) ++
    [("integration", .bool a.integration)])

/-- `_encode`. -/
def encode (d : Document) : Json :=
  .obj [("version", .int 1), ("agents", .arr (d.agents.map encodeRow)),
    ("active_agent", .str d.active)]

def decodeRow (j : Json) : Option Agent := do
  let d ← Codec.within j ["id", "name", "type", "createdAt"] ["builtin", "integration"]
  let id ← Codec.field d "id" Json.str?
  let name ← Codec.field d "name" Json.str?
  let type ← Codec.field d "type" (Codec.readEnum AgentType.ofValue?)
  let createdAt ← Codec.field d "createdAt" Json.str?
  let integration ← Codec.optionalField d "integration" Json.bool?
  let builtin ← Codec.optionalField d "builtin" Json.bool?
  let a : Agent := ⟨id, name, type, createdAt, builtin, integration.getD false⟩
  if rowValid a then some a else none

/-- `_decode`. -/
def decodeFile (j : Json) : Except Error Document :=
  match (Codec.exactly j ["version", "agents", "active_agent"]).filter
      fun d => (Codec.versionOne d).isSome with
  | none => .error (.config "$")
  | some d =>
    match Codec.field d "agents" Json.arr?, Codec.field d "active_agent" Json.str? with
    | some rows, some active =>
      match rows.findIdx? fun row => (decodeRow row).isNone with
      | some i => .error (.config ("agents[" ++ toString i ++ "]"))
      | none => decode ⟨rows.filterMap decodeRow, active⟩
    | _, _ => .error (.config "agents/active_agent")

/-! ### Round trips -/

lemma AgentType.ofValue?_value (t : AgentType) : AgentType.ofValue? t.value = some t := by
  cases t <;> rfl

lemma decodeRow_encodeRow {a : Agent} (h : rowValid a = true) :
    decodeRow (encodeRow a) = some a := by
  obtain ⟨id, name, type, createdAt, builtin, integration⟩ := a
  cases builtin with
  | none =>
    have hw : Codec.within (encodeRow ⟨id, name, type, createdAt, none, integration⟩)
        ["id", "name", "type", "createdAt"] ["builtin", "integration"] = some
          ⟨[("id", .str id), ("name", .str name), ("type", .str type.value),
            ("createdAt", .str createdAt), ("integration", .bool integration)], by simp⟩ :=
      Codec.within_obj _ (by simp) (by simp)
    refine Codec.read_some hw ?_
    simp [Codec.field, Codec.optionalField, Codec.readEnum, Dict.get?, Dict.find, Json.str?,
      Json.bool?, AgentType.ofValue?_value, h]
  | some b =>
    have hw : Codec.within (encodeRow ⟨id, name, type, createdAt, some b, integration⟩)
        ["id", "name", "type", "createdAt"] ["builtin", "integration"] = some
          ⟨[("id", .str id), ("name", .str name), ("type", .str type.value),
            ("createdAt", .str createdAt), ("builtin", .bool b), ("integration", .bool integration)],
            by simp⟩ :=
      Codec.within_obj _ (by simp) (by simp)
    refine Codec.read_some hw ?_
    simp [Codec.field, Codec.optionalField, Codec.readEnum, Dict.get?, Dict.find, Json.str?,
      Json.bool?, AgentType.ofValue?_value, h]

lemma filterMap_decodeRow {l : List Agent} (h : ∀ a ∈ l, rowValid a = true) :
    (l.map encodeRow).filterMap decodeRow = l ∧
      (l.map encodeRow).findIdx? (fun row => (decodeRow row).isNone) = none := by
  induction l with
  | nil => exact ⟨rfl, rfl⟩
  | cons a l ih =>
    have ha := decodeRow_encodeRow (h a List.mem_cons_self)
    obtain ⟨hmap, hidx⟩ := ih fun b hb => h b (List.mem_cons_of_mem a hb)
    constructor
    · rw [List.map_cons, List.filterMap_cons_some ha, hmap]
    · rw [List.map_cons, List.findIdx?_cons, ha, hidx]
      rfl

/-- What is encoded decodes to itself. -/
lemma decodeFile_encode {d : Document} (h : decode d = .ok d) :
    decodeFile (encode d) = .ok d := by
  obtain ⟨-, hrows, -, -⟩ := decode_eq_ok.mp h
  obtain ⟨hmap, hidx⟩ := filterMap_decodeRow hrows
  have he : Codec.exactly (encode d) ["version", "agents", "active_agent"] = some
      ⟨[("version", .int 1), ("agents", .arr (d.agents.map encodeRow)),
        ("active_agent", .str d.active)], by simp⟩ :=
    Codec.exactly_obj _ rfl (by simp)
  unfold decodeFile
  rw [he]
  simp [Codec.versionOne, Codec.field, Dict.get?, Dict.find, Json.int?, Json.arr?, Json.str?,
    Option.filter, hidx, hmap, h]

lemma within_spec {j : Json} {required allowed : List String} {d : Dict String Json}
    (h : Codec.within j required allowed = some d) :
    j = .obj d.entries ∧ ∀ k ∈ required, k ∈ d.keys := by
  unfold Codec.within at h
  obtain ⟨hobj, hkeys⟩ := Option.filter_eq_some_iff.mp h
  simp only [Bool.and_eq_true, List.all_eq_true, decide_eq_true_eq] at hkeys
  refine ⟨?_, hkeys.1⟩
  cases j <;> simp only [Json.obj?, reduceCtorEq] at hobj
  next fields =>
    unfold Dict.ofEntries? at hobj
    split at hobj
    · cases hobj
      rfl
    · cases hobj

lemma exactly_spec {j : Json} {names : List String} {d : Dict String Json}
    (h : Codec.exactly j names = some d) : j = .obj d.entries := by
  unfold Codec.exactly at h
  obtain ⟨hobj, -⟩ := Option.filter_eq_some_iff.mp h
  cases j <;> simp only [Json.obj?, reduceCtorEq] at hobj
  next fields =>
    unfold Dict.ofEntries? at hobj
    split at hobj
    · cases hobj
      rfl
    · cases hobj

lemma get?_entries (d : Dict String Json) (k : String) : d.get? k = Dict.find k d.entries := rfl

/-- A row that equals an encoded one is read as it was. -/
lemma decodeRow_of_equal {a b : Agent} {j : Json} (he : Json.equal (encodeRow a) j = true)
    (hd : decodeRow j = some b) : b = a := by
  unfold decodeRow at hd
  obtain ⟨d, hw, hread⟩ := Option.bind_eq_some_iff.mp hd
  obtain ⟨rfl, -⟩ := within_spec hw
  clear hd hw
  rename' hread => hd
  obtain ⟨fields, hfields, hlen, hall⟩ := Json.equal_obj he
  cases hfields
  obtain ⟨⟨j₁, h₁, e₁⟩, hall⟩ := Json.equalFields_cons hall
  obtain ⟨⟨j₂, h₂, e₂⟩, hall⟩ := Json.equalFields_cons hall
  obtain ⟨⟨j₃, h₃, e₃⟩, hall⟩ := Json.equalFields_cons hall
  obtain ⟨⟨j₄, h₄, e₄⟩, hall⟩ := Json.equalFields_cons hall
  have t₁ := Json.equal_str e₁
  have t₂ := Json.equal_str e₂
  have t₃ := Json.equal_str e₃
  have t₄ := Json.equal_str e₄
  subst t₁ t₂ t₃ t₄
  simp only [Codec.field, Codec.readEnum, Codec.optionalField, get?_entries, h₁, h₂, h₃, h₄,
    Option.bind_some, Json.str?, AgentType.ofValue?_value, Option.bind_eq_bind] at hd
  have hintegration : ∀ rest, Json.equalFields (rest ++ [("integration", .bool a.integration)])
      d.entries = true → ∃ i, Dict.find "integration" d.entries = some i ∧
        Json.equal (.bool a.integration) i = true := by
    intro rest hrest
    induction rest with
    | nil => exact (Json.equalFields_cons hrest).1
    | cons e rest ih => exact ih (Json.equalFields_cons (k := e.1) (a := e.2) hrest).2
  obtain ⟨i, hi, hieq⟩ := hintegration _ hall
  rw [hi] at hd
  dsimp only at hd
  obtain ⟨oi, hoi, hd⟩ := Option.bind_eq_some_iff.mp hd
  obtain ⟨bi, hbi, rfl⟩ := Option.map_eq_some_iff.mp hoi
  have hint : bi = a.integration := by
    cases i <;> simp only [Json.bool?, reduceCtorEq, Option.some.injEq] at hbi
    subst hbi
    exact Json.equal_bool hieq
  cases hbuiltin : a.builtin with
  | some v =>
    rw [hbuiltin] at hall
    obtain ⟨⟨w, hw', ew⟩, -⟩ := Json.equalFields_cons hall
    rw [hw'] at hd
    dsimp only at hd
    obtain ⟨ob, hob, hd⟩ := Option.bind_eq_some_iff.mp hd
    obtain ⟨bv, hbv, rfl⟩ := Option.map_eq_some_iff.mp hob
    have hbv' : bv = v := by
      cases w <;> simp only [Json.bool?, reduceCtorEq, Option.some.injEq] at hbv
      subst hbv
      exact Json.equal_bool ew
    split at hd
    · cases hd
      obtain ⟨id, name, type, createdAt, builtin, integration⟩ := a
      simp_all
    · cases hd
  | none =>
    -- five keys, and a sixth would make the object longer
    have hno : Dict.find "builtin" d.entries = none := by
      cases hf : Dict.find "builtin" d.entries with
      | none => rfl
      | some w =>
        have hmem : ∀ {k : String} {v : Json}, Dict.find k d.entries = some v →
            k ∈ d.entries.map Prod.fst := fun h =>
          List.mem_map.mpr ⟨_, Dict.mem_of_find h, rfl⟩
        have hsub : ["builtin", "id", "name", "type", "createdAt", "integration"] ⊆
            d.entries.map Prod.fst := by
          intro k hk
          simp only [List.mem_cons, List.not_mem_nil, or_false] at hk
          rcases hk with rfl | rfl | rfl | rfl | rfl | rfl
          · exact hmem hf
          · exact hmem h₁
          · exact hmem h₂
          · exact hmem h₃
          · exact hmem h₄
          · exact hmem hi
        have hle := (List.subperm_of_subset (by simp) hsub).length_le
        simp [hbuiltin] at hlen
        simp [← hlen] at hle
    rw [hno] at hd
    dsimp only at hd
    rw [Option.bind_some] at hd
    split at hd
    · cases hd
      obtain ⟨id, name, type, createdAt, builtin, integration⟩ := a
      simp_all
    · cases hd

lemma decodeFile_spec {j : Json} {d : Document} (h : decodeFile j = .ok d) :
    ∃ (e : Dict String Json) (rows : List Json), j = .obj e.entries ∧
      Dict.find "agents" e.entries = some (.arr rows) ∧
      Dict.find "active_agent" e.entries = some (.str d.active) ∧
      (∀ row ∈ rows, (decodeRow row).isSome) ∧ rows.filterMap decodeRow = d.agents ∧
      decode d = .ok d := by
  unfold decodeFile at h
  split at h
  next => cases h
  next e he =>
    have hobj := exactly_spec (Option.filter_eq_some_iff.mp he).1
    split at h
    next rows active hrows hactive =>
      split at h
      next => cases h
      next hnone =>
        have hd := eq_of_decode h
        subst hd
        refine ⟨e, rows, hobj, ?_, ?_, ?_, rfl, h⟩
        · unfold Codec.field at hrows
          obtain ⟨j, hj, hr⟩ := Option.bind_eq_some_iff.mp hrows
          cases j <;> simp only [Json.arr?, reduceCtorEq, Option.some.injEq] at hr
          subst hr
          exact hj
        · unfold Codec.field at hactive
          obtain ⟨j, hj, hr⟩ := Option.bind_eq_some_iff.mp hactive
          cases j <;> simp only [Json.str?, reduceCtorEq, Option.some.injEq] at hr
          subst hr
          exact hj
        · intro row hrow
          have h := List.findIdx?_eq_none_iff.mp hnone row hrow
          cases hd : decodeRow row with
          | none => simp [hd] at h
          | some a => rfl
    next => cases h

/-- A file that equals an encoded document says the same. -/
lemma eq_of_equal {d d' : Document} {j : Json} (he : Json.equal (encode d') j = true)
    (hd : decodeFile j = .ok d) : d' = d := by
  obtain ⟨e, rows, rfl, hagents, hactive, hsome, hrows, -⟩ := decodeFile_spec hd
  obtain ⟨fields, hfields, -, hall⟩ := Json.equal_obj he
  cases hfields
  obtain ⟨-, hall⟩ := Json.equalFields_cons hall
  obtain ⟨⟨a, ha, ea⟩, hall⟩ := Json.equalFields_cons hall
  obtain ⟨⟨t, ht, et⟩, -⟩ := Json.equalFields_cons hall
  have hactive' : d'.active = d.active := by
    rw [hactive] at ht
    cases ht
    have hstr := Json.equal_str et
    simpa [eq_comm] using hstr
  have hagents' : d'.agents = d.agents := by
    rw [hagents] at ha
    cases ha
    obtain ⟨items, hitems, hequal⟩ := Json.equal_arr ea
    cases hitems
    rw [← hrows]
    generalize d'.agents = l at hequal
    clear hd hrows ht et ea hagents hactive he hall hactive'
    induction l generalizing rows with
    | nil =>
      cases rows with
      | nil => rfl
      | cons row rows => simp [Json.equalItems] at hequal
    | cons b l ih =>
      cases rows with
      | nil => simp [Json.equalItems] at hequal
      | cons row rows =>
        rw [List.map_cons, Json.equalItems, Bool.and_eq_true] at hequal
        obtain ⟨c, hc⟩ := Option.isSome_iff_exists.mp (hsome row List.mem_cons_self)
        have hbc := decodeRow_of_equal hequal.1 hc
        rw [List.filterMap_cons_some hc, hbc,
          ih rows (fun r hr => hsome r (List.mem_cons_of_mem row hr)) hequal.2]
  obtain ⟨agents, active⟩ := d
  obtain ⟨agents', active'⟩ := d'
  simp_all

/-! ### The calls -/

/-- What the calls find outside of the file: whether an OpenClaw gateway is configured, and which
integration agents are enrolled. -/
structure Authority where
  openclaw : Bool
  enrolled : List String

/-- `_valid`. -/
def Authority.valid (auth : Authority) (a : Agent) : Bool :=
  match a.type with
  | .openclawDirect => auth.openclaw
  | .openclaw => !a.integration || a.id ∈ auth.enrolled

/-- Where a rewrite fails: before the new file is renamed into place, or after. -/
inductive Fault
  | none | before | after
  deriving DecidableEq

inductive Call
  | register (agent : Agent)
  | activate (id : String)
  | remove (id : String)
  | retireInvalid

inductive Outcome
  | returned (value : Bool)
  | raised (e : Error)
  deriving DecidableEq

/-- The file, what the process keeps of it, and every document written so far. `stale` tells that a
rewrite was renamed into place behind the back of the cache. -/
structure Files where
  file : Json
  cache : Document
  written : List Json
  stale : Bool

namespace Files

/-- `update_json`: the new files, and what it returns or raises. A change gives nothing where it
returns the object that it was given, which equals itself. -/
def updateJson (s : Files) (fault : Fault) (change : Json → Except Error (Option Json)) :
    Files × Except Error Json :=
  if fault = .before then (s, .error .os)
  else
    match change s.file with
    | .error e => (s, .error e)
    | .ok none => (s, .ok s.file)
    | .ok (some result) =>
      if Json.equal result s.file then (s, .ok result)
      else
        ({ s with file := result, written := s.written ++ [result] },
          if fault = .after then .error .os else .ok result)

/-- `_publish`. -/
def publish (s : Files) (data : Json) : Except Error Files :=
  (decodeFile data).map fun d => { s with cache := d, stale := false }

/-- `_commit`, with what the call returns on success. -/
def commit (s : Files) (fault : Fault) (change : Json → Except Error (Option Json))
    (value : Files → Bool) : Files × Outcome :=
  match s.updateJson fault change with
  | (s, .ok data) =>
    match s.publish data with
    | .ok s => (s, .returned (value s))
    | .error e => (s, .raised e)
  | (s, .error .os) =>
    match s.publish s.file with
    | .ok s => (s, .raised .os)
    | .error e => (s, .raised e)
  | (s, .error e) => (s, .raised e)

def registerFile (agent : Agent) (data : Json) : Except Error (Option Json) := do
  let d ← decodeFile data
  if d.agents.any (·.id == agent.id) then return none
  else return some (encode ⟨d.agents ++ [agent], d.active⟩)

def activateFile (auth : Authority) (id : String) (data : Json) :
    Except Error (Option Json) := do
  let d ← decodeFile data
  match d.agents.find? (·.id == id) with
  | some target => if auth.valid target then return some (encode ⟨d.agents, id⟩) else return none
  | none => return none

def removeFile (id : String) (data : Json) : Except Error (Option Json) := do
  let d ← decodeFile data
  return some
    (encode ⟨d.agents.filter (·.id != id), if d.active == id then "" else d.active⟩)

def retireFile (auth : Authority) (data : Json) : Except Error (Option Json) := do
  let d ← decodeFile data
  let retained := d.agents.filter fun a => !a.integration || a.id ∈ auth.enrolled
  return some (encode ⟨retained, if retained.any (·.id == d.active) then d.active else ""⟩)

/-- `get_by_id`. -/
def getById (s : Files) (auth : Authority) (id : String) : Option Agent :=
  (s.cache.agents.filter auth.valid).find? (·.id == id)

def step (s : Files) (auth : Authority) (fault : Fault) : Call → Files × Outcome
  | .register agent => s.commit fault (registerFile agent) fun _ => true
  | .activate id =>
    if (s.getById auth id).isNone then (s, .returned false)
    else s.commit fault (activateFile auth id) fun s => s.cache.active == id
  | .remove id =>
    match s.getById auth id with
    | some agent =>
      if agent.builtin = some true then (s, .returned false)
      else s.commit fault (removeFile id) fun _ => true
    | none => (s, .returned false)
  | .retireInvalid =>
    -- the only rewrite that lets the error through
    match s.updateJson fault (retireFile auth) with
    | (s', .ok data) =>
      match s'.publish data with
      | .ok s => (s, .returned true)
      | .error e => (s', .raised e)
    | (s', .error e) => ({ s' with stale := s'.stale || s'.written.length != s.written.length },
      .raised e)

/-! ### What a call does to the file -/

/-- The agent that the file selects. -/
def selection (data : Json) : String :=
  match decodeFile data with
  | .ok d => d.active
  | .error _ => ""

/-- What a change makes of a document: it leaves it alone, or gives one that decodes. -/
def Makes (change : Json → Except Error (Option Json)) (d : Document) (o : Option Document) :
    Prop :=
  (∀ data, decodeFile data = .ok d → change data = .ok (o.map encode)) ∧
    ∀ d', o = some d' → decode d' = .ok d'

lemma makes_register {agent : Agent} (hv : rowValid agent = true) {d : Document}
    (h : decode d = .ok d) :
    Makes (registerFile agent) d (if d.agents.any (·.id == agent.id) then none
      else some ⟨d.agents ++ [agent], d.active⟩) := by
  constructor
  · intro data hdata
    simp only [registerFile, hdata]
    by_cases hany : d.agents.any (·.id == agent.id) = true
    · rw [if_pos hany]
      simp [bind, Except.bind, hany, pure, Except.pure]
    · rw [if_neg hany]
      simp [bind, Except.bind, hany, pure, Except.pure]
  · intro d' hd'
    obtain ⟨d'', he, hd''⟩ := decode_register hv h
    split at hd'
    · cases hd'
    next hany =>
      rw [if_neg hany] at he
      cases hd'
      cases he
      exact hd''

lemma makes_activate (auth : Authority) (id : String) {d : Document} (h : decode d = .ok d) :
    Makes (activateFile auth id) d
      (if (d.agents.find? (·.id == id)).any auth.valid then some ⟨d.agents, id⟩ else none) := by
  constructor
  · intro data hdata
    simp only [activateFile, hdata]
    cases hfind : d.agents.find? (·.id == id) with
    | none => simp [bind, Except.bind, hfind, pure, Except.pure]
    | some target => cases hvalid : auth.valid target <;> simp [bind, Except.bind, hfind, hvalid,
        pure, Except.pure]
  · intro d' hd'
    split at hd'
    next hany =>
      cases hd'
      obtain ⟨-, hrow, hn, -⟩ := decode_eq_ok.mp h
      refine decode_eq_ok.mpr ⟨rfl, hrow, hn, .inr ?_⟩
      cases hfind : d.agents.find? (·.id == id) with
      | none => simp [hfind] at hany
      | some target =>
        have hid : target.id = id := by simpa using List.find?_some hfind
        exact List.mem_map.mpr ⟨target, List.mem_of_find?_eq_some hfind, hid⟩
    next => cases hd'

lemma makes_remove (id : String) {d : Document} (h : decode d = .ok d) :
    Makes (removeFile id) d (some ⟨d.agents.filter (·.id != id),
      if d.active == id then "" else d.active⟩) := by
  constructor
  · intro data hdata
    simp only [removeFile, hdata]
    rfl
  · intro d' hd'
    cases hd'
    obtain ⟨-, hrow, hn, ha⟩ := decode_eq_ok.mp h
    refine decode_eq_ok.mpr ⟨rfl, fun a hm => hrow a (List.mem_of_mem_filter hm),
      hn.sublist (List.filter_sublist.map _), ?_⟩
    dsimp only
    split
    · exact .inl rfl
    next hne =>
      rcases ha with ha | ha
      · exact .inl ha
      · obtain ⟨a, hm, hid⟩ := List.mem_map.mp ha
        refine .inr (List.mem_map.mpr ⟨a, List.mem_filter.mpr ⟨hm, ?_⟩, hid⟩)
        rw [hid]
        simpa using hne

lemma makes_retire (auth : Authority) {d : Document} (h : decode d = .ok d) :
    Makes (retireFile auth) d
      (some ⟨d.agents.filter fun a => !a.integration || a.id ∈ auth.enrolled,
        if (d.agents.filter fun a => !a.integration || a.id ∈ auth.enrolled).any
          (·.id == d.active) then d.active else ""⟩) := by
  constructor
  · intro data hdata
    simp only [retireFile, hdata]
    rfl
  · intro d' hd'
    cases hd'
    obtain ⟨d'', he, hd''⟩ := decode_retire auth.enrolled h
    cases he
    exact hd''

/-- The ways in which a rewrite of a file that decodes can end. -/
lemma updateJson_cases {s : Files} {fault : Fault} {change : Json → Except Error (Option Json)}
    {d : Document} {o : Option Document} (hd : decodeFile s.file = .ok d)
    (hc : Makes change d o) :
    s.updateJson fault change = (s, .error .os) ∧ fault = .before ∨
    (∃ data, s.updateJson fault change = (s, .ok data) ∧ decodeFile data = .ok d ∧
      (o = none ∨ o = some d)) ∨
    ∃ d', o = some d' ∧ decode d' = .ok d' ∧
      s.updateJson fault change =
        ({ s with file := encode d', written := s.written ++ [encode d'] },
          if fault = .after then .error .os else .ok (encode d')) := by
  have hchange := hc.1 s.file hd
  unfold updateJson
  split
  next hbefore => exact .inl ⟨rfl, hbefore⟩
  next =>
    rw [hchange]
    cases o with
    | none => exact .inr (.inl ⟨s.file, rfl, hd, .inl rfl⟩)
    | some d' =>
      have hd' := hc.2 d' rfl
      simp only [Option.map_some]
      split
      next hequal =>
        have hsame := eq_of_equal hequal hd
        subst hsame
        exact .inr (.inl ⟨encode d', rfl, decodeFile_encode hd', .inr rfl⟩)
      next => exact .inr (.inr ⟨d', rfl, hd', rfl⟩)

/-- What holds of the files after any calls. -/
structure Sound (s : Files) : Prop where
  file : ∃ d, decodeFile s.file = .ok d
  written : ∀ data ∈ s.written, ∃ d, data = encode d ∧ decodeFile data = .ok d
  cache : s.stale = false → decodeFile s.file = .ok s.cache

lemma Sound.wrote {s : Files} (h : Sound s) {d : Document} (hd : decode d = .ok d) :
    (∃ d', decodeFile (encode d) = .ok d') ∧
      ∀ data ∈ s.written ++ [encode d], ∃ d', data = encode d' ∧ decodeFile data = .ok d' := by
  refine ⟨⟨d, decodeFile_encode hd⟩, fun data hdata => ?_⟩
  rcases List.mem_append.mp hdata with hdata | hdata
  · exact h.written data hdata
  · rw [List.mem_singleton.mp hdata]
    exact ⟨d, rfl, decodeFile_encode hd⟩

/-- The ways in which a call that publishes what it commits can end. -/
lemma commit_cases {s : Files} (h : Sound s) {fault : Fault}
    {change : Json → Except Error (Option Json)} {value : Files → Bool} {d : Document}
    {o : Option Document} (hd : decodeFile s.file = .ok d) (hc : Makes change d o) :
    ∃ s' out, s.commit fault change value = (s', out) ∧ Sound s' ∧ s'.stale = false ∧
      ((s'.file = s.file ∧ s'.cache = d ∧ s'.written = s.written ∧
          (out = .returned (value s') ∨ out = .raised .os)) ∨
        ∃ d', o = some d' ∧ s'.file = encode d' ∧ s'.cache = d' ∧
          (out = .returned (value s') ∨ out = .raised .os)) := by
  unfold commit
  rcases @updateJson_cases s fault change d o hd hc with
    ⟨hu, -⟩ | ⟨data, hu, hdata, -⟩ | ⟨d', ho, hd', hu⟩
  · rw [hu]
    dsimp only
    rw [publish, hd]
    exact ⟨_, _, rfl, ⟨⟨d, hd⟩, h.written, fun _ => hd⟩, rfl, .inl ⟨rfl, rfl, rfl, .inr rfl⟩⟩
  · rw [hu]
    dsimp only
    rw [publish, hdata]
    exact ⟨_, _, rfl, ⟨⟨d, hd⟩, h.written, fun _ => hd⟩, rfl, .inl ⟨rfl, rfl, rfl, .inl rfl⟩⟩
  · rw [hu]
    obtain ⟨hfile, hwritten⟩ := h.wrote hd'
    by_cases hafter : fault = .after
    · rw [if_pos hafter]
      dsimp only
      rw [publish, decodeFile_encode hd']
      exact ⟨_, _, rfl, ⟨hfile, hwritten, fun _ => decodeFile_encode hd'⟩, rfl,
        .inr ⟨d', ho, rfl, rfl, .inr rfl⟩⟩
    · rw [if_neg hafter]
      dsimp only
      rw [publish, decodeFile_encode hd']
      exact ⟨_, _, rfl, ⟨hfile, hwritten, fun _ => decodeFile_encode hd'⟩, rfl,
        .inr ⟨d', ho, rfl, rfl, .inl rfl⟩⟩

/-- The ways in which the retirement of invalid agents can end. -/
lemma retire_cases {s : Files} (h : Sound s) (auth : Authority) (fault : Fault) {d : Document}
    (hd : decodeFile s.file = .ok d) :
    ∃ s' out, s.step auth fault .retireInvalid = (s', out) ∧ Sound s' ∧
      (s'.stale = true → s.stale = true ∨ fault = .after) ∧
      (out = .returned true → s'.stale = false) ∧
      (s'.file = s.file ∨
        s'.file = encode ⟨d.agents.filter fun a => !a.integration || a.id ∈ auth.enrolled,
          if (d.agents.filter fun a => !a.integration || a.id ∈ auth.enrolled).any
            (·.id == d.active) then d.active else ""⟩) := by
  obtain ⟨e, rows, -, -, -, -, -, hdec⟩ := decodeFile_spec hd
  simp only [step]
  rcases @updateJson_cases s fault (retireFile auth) d _ hd (makes_retire auth hdec) with
    ⟨hu, -⟩ | ⟨data, hu, hdata, -⟩ | ⟨d', ho, hd', hu⟩
  · rw [hu]
    refine ⟨_, _, rfl, ⟨⟨d, hd⟩, h.written, fun hs => ?_⟩, fun hs => ?_, fun ho => ?_, .inl rfl⟩
    · exact h.cache (by simpa using hs)
    · exact .inl (by simpa using hs)
    · cases ho
  · rw [hu]
    dsimp only
    rw [publish, hdata]
    exact ⟨_, _, rfl, ⟨⟨d, hd⟩, h.written, fun _ => hd⟩, fun hs => (by cases hs), fun _ => rfl,
      .inl rfl⟩
  · rw [hu]
    obtain ⟨hfile, hwritten⟩ := h.wrote hd'
    cases ho
    by_cases hafter : fault = .after
    · rw [if_pos hafter]
      refine ⟨_, _, rfl, ⟨hfile, hwritten, fun hs => ?_⟩, fun _ => .inr hafter, fun ho => ?_,
        .inr rfl⟩
      · simp at hs
      · cases ho
    · rw [if_neg hafter]
      dsimp only
      rw [publish, decodeFile_encode hd']
      exact ⟨_, _, rfl, ⟨hfile, hwritten, fun _ => decodeFile_encode hd'⟩,
        fun hs => (by cases hs), fun _ => rfl, .inr rfl⟩

/-! ### Any calls -/

/-- An agent that is registered has the values of a row; the acknowledgement of an enrollment, which
alone registers agents, sees to it. -/
def Wellformed : Call → Prop
  | .register agent => rowValid agent = true
  | _ => True

/-- The files after any calls with any faults, from a file that is loaded. -/
inductive Reachable : Files → Prop
  | start {data : Json} {d : Document} (h : decodeFile data = .ok d) :
      Reachable ⟨data, d, [], false⟩
  | call {s : Files} {c : Call} (h : Reachable s) (hc : Wellformed c) (auth : Authority)
      (fault : Fault) : Reachable (s.step auth fault c).1

/-- Why a call changes the selection: it activates another valid agent, and returns or fails after
the rename; it removes the selected agent; the selected agent is retired. -/
def Reason (s : Files) (auth : Authority) (s' : Files) (out : Outcome) : Call → Prop
  | .register _ => False
  | .activate id => selection s'.file = id ∧
      (∃ d, decodeFile s.file = .ok d ∧ ∃ a ∈ d.agents, a.id = id ∧ auth.valid a = true) ∧
      (out = .returned true ∨ out = .raised .os)
  | .remove id => selection s.file = id ∧ selection s'.file = ""
  | .retireInvalid => selection s'.file = "" ∧
      ∃ d, decodeFile s.file = .ok d ∧ ∀ a ∈ d.agents, a.id = selection s.file →
        a.integration = true ∧ a.id ∉ auth.enrolled

lemma selection_of {data : Json} {d : Document} (h : decodeFile data = .ok d) :
    selection data = d.active := by
  simp [selection, h]

lemma step_spec {s : Files} (h : Sound s) {c : Call} (hc : Wellformed c) (auth : Authority)
    (fault : Fault) :
    Sound (s.step auth fault c).1 ∧
      ((s.step auth fault c).1.stale = true →
        s.stale = true ∨ c = .retireInvalid ∧ fault = .after) ∧
      ((s.step auth fault c).2 = .returned true → (s.step auth fault c).1.stale = false) ∧
      (selection (s.step auth fault c).1.file ≠ selection s.file →
        Reason s auth (s.step auth fault c).1 (s.step auth fault c).2 c) := by
  obtain ⟨d, hd⟩ := h.file
  obtain ⟨e, rows, -, -, -, -, -, hdec⟩ := decodeFile_spec hd
  have hsel := selection_of hd
  cases c with
  | register agent =>
    obtain ⟨s', out, hs, hsound, hstale, hfile⟩ :=
      @commit_cases s h fault (registerFile agent) (fun _ => true) d _ hd (makes_register hc hdec)
    have hstep : s.step auth fault (.register agent) = (s', out) := hs
    rw [hstep]
    refine ⟨hsound, fun ht => (by rw [hstale] at ht; cases ht), fun _ => hstale,
      fun hne => hne ?_⟩
    rcases hfile with ⟨hfile, -⟩ | ⟨d', ho, hfile, hcache, -⟩
    · rw [hfile]
    · split at ho
      · cases ho
      · cases ho
        have hdec' := hsound.cache hstale
        rw [hcache] at hdec'
        rw [selection_of hdec', hsel]
  | activate id =>
    simp only [step]
    split
    · exact ⟨h, .inl, fun ho => (by cases ho), fun hne => absurd rfl hne⟩
    · obtain ⟨s', out, hs, hsound, hstale, hfile⟩ :=
        @commit_cases s h fault (activateFile auth id) (fun s => s.cache.active == id) d _ hd
          (makes_activate auth id hdec)
      rw [hs]
      refine ⟨hsound, fun ht => (by rw [hstale] at ht; cases ht), fun _ => hstale,
        fun hne => ?_⟩
      rcases hfile with ⟨hfile, -⟩ | ⟨d', ho, hfile, hcache, hout⟩
      · exact absurd (by rw [hfile]) hne
      · split at ho
        next hany =>
          cases ho
          have hdec' := hsound.cache hstale
          rw [hcache] at hdec'
          refine ⟨selection_of hdec', ⟨d, hd, ?_⟩, ?_⟩
          · cases hfind : d.agents.find? (·.id == id) with
            | none => simp [hfind] at hany
            | some target =>
              refine ⟨target, List.mem_of_find?_eq_some hfind, ?_, by simpa [hfind] using hany⟩
              simpa using List.find?_some hfind
          · simpa [hcache] using hout
        next => cases ho
  | remove id =>
    simp only [step]
    split
    next agent hget =>
      split
      · exact ⟨h, .inl, fun ho => (by cases ho), fun hne => absurd rfl hne⟩
      · obtain ⟨s', out, hs, hsound, hstale, hfile⟩ :=
          @commit_cases s h fault (removeFile id) (fun _ => true) d _ hd (makes_remove id hdec)
        rw [hs]
        refine ⟨hsound, fun ht => (by rw [hstale] at ht; cases ht), fun _ => hstale,
          fun hne => ?_⟩
        rcases hfile with ⟨hfile, -⟩ | ⟨d', ho, hfile, hcache, -⟩
        · exact absurd (by rw [hfile]) hne
        · cases ho
          have hdec' := hsound.cache hstale
          rw [hcache] at hdec'
          have hsel' := selection_of hdec'
          dsimp only at hsel'
          split at hsel'
          next hid =>
            have hid' : d.active = id := by simpa using hid
            exact ⟨hsel.trans hid', hsel'⟩
          next => exact absurd (hsel'.trans hsel.symm) hne
    next => exact ⟨h, .inl, fun ho => (by cases ho), fun hne => absurd rfl hne⟩
  | retireInvalid =>
    obtain ⟨s', out, hs, hsound, hstale, hpublished, hfile⟩ := retire_cases h auth fault hd
    rw [hs]
    refine ⟨hsound, fun ht => (hstale ht).imp_right fun hf => ⟨rfl, hf⟩, hpublished,
      fun hne => ?_⟩
    rcases hfile with hfile | hfile
    · exact absurd (by rw [hfile]) hne
    · have hdec' := decodeFile_encode ((makes_retire auth hdec).2 _ rfl)
      rw [← hfile] at hdec'
      have hsel' := selection_of hdec'
      dsimp only at hsel'
      split at hsel'
      next => exact absurd (hsel'.trans hsel.symm) hne
      next hnone =>
        refine ⟨hsel', d, hd, fun a ha hid => ?_⟩
        rw [hsel] at hid
        by_contra hkeep
        refine hnone (List.any_eq_true.mpr ⟨a, List.mem_filter.mpr ⟨ha, ?_⟩, by simpa using hid⟩)
        simp only [not_and, not_not] at hkeep
        cases hi : a.integration
        · rfl
        · simpa using hkeep hi

lemma Reachable.sound {s : Files} (h : Reachable s) : Sound s := by
  induction h with
  | start h => exact ⟨⟨_, h⟩, fun _ hm => (by cases hm), fun _ => h⟩
  | call _ hc auth fault ih => exact (step_spec ih hc auth fault).1

/-- **The agent registry and its file.** After any calls with any failed writes, every document
written is one that was encoded and decodes to itself, and the cache is the file, unless a
retirement failed behind its rename and nothing was published since, as by every call that returns
true. The selection changes only by the activation of another valid agent, which returned or failed
behind its rename, or because the selected agent was removed or retired; to register an agent again
changes nothing. -/
theorem registry_file {s : Files} (h : Reachable s) :
    (∀ data ∈ s.written, ∃ d, data = encode d ∧ decodeFile data = .ok d) ∧
      (s.stale = false → decodeFile s.file = .ok s.cache) ∧
      ∀ auth fault c, Wellformed c →
        ((s.step auth fault c).1.stale = true →
          s.stale = true ∨ c = .retireInvalid ∧ fault = .after) ∧
        ((s.step auth fault c).2 = .returned true → (s.step auth fault c).1.stale = false) ∧
        (selection (s.step auth fault c).1.file ≠ selection s.file →
          Reason s auth (s.step auth fault c).1 (s.step auth fault c).2 c) ∧
        ∀ agent d, c = .register agent → decodeFile s.file = .ok d →
          agent.id ∈ d.agents.map (·.id) →
          (s.step auth fault c).1.file = s.file ∧ (s.step auth fault c).1.cache = d ∧
            (s.step auth fault c).1.written = s.written := by
  have hs := h.sound
  refine ⟨hs.written, hs.cache, fun auth fault c hc => ?_⟩
  obtain ⟨-, hstale, hpublished, hreason⟩ := step_spec hs hc auth fault
  refine ⟨hstale, hpublished, hreason, fun agent d hreg hd hmem => ?_⟩
  subst hreg
  obtain ⟨e, rows, -, -, -, -, -, hdec⟩ := decodeFile_spec hd
  obtain ⟨s', out, hcommit, -, -, hfile⟩ :=
    @commit_cases s hs fault (registerFile agent) (fun _ => true) d _ hd (makes_register hc hdec)
  have hstep : s.step auth fault (.register agent) = (s', out) := hcommit
  have hany : d.agents.any (·.id == agent.id) = true := by
    obtain ⟨a, ha, hid⟩ := List.mem_map.mp hmem
    exact List.any_eq_true.mpr ⟨a, ha, by simpa using hid⟩
  rw [hstep]
  rcases hfile with ⟨hfile, hcache, hwritten, -⟩ | ⟨d', ho, -⟩
  · exact ⟨hfile, hcache, hwritten⟩
  · rw [if_pos hany] at ho
    cases ho

def sampleAgent : Agent := ⟨"a", "A", .openclaw, "2026", none, true⟩

/-- Two agents, the first of them selected. -/
def sampleTwo : Document := ⟨[sampleAgent, ⟨"b", "B", .openclaw, "2026", none, false⟩], "a"⟩

def sampleStart : Files := ⟨encode sampleTwo, sampleTwo, [], false⟩

/-- A third agent is registered, the second one is selected, and the removal of the first one fails
before its rename. -/
def sampleFiles : Files :=
  (((sampleStart.step ⟨false, ["a", "c"]⟩ .none (.register { sampleAgent with id := "c" })).1.step
    ⟨false, ["a", "c"]⟩ .none (.activate "b")).1.step ⟨false, ["a", "c"]⟩ .before (.remove "a")).1

theorem registry_file_sample :
    sampleFiles.cache = ⟨sampleTwo.agents ++ [{ sampleAgent with id := "c" }], "b"⟩ ∧
      sampleFiles.written.length = 2 ∧ decodeFile sampleFiles.file = .ok sampleFiles.cache ∧
      Reason sampleFiles ⟨false, ["a", "c"]⟩
        (sampleFiles.step ⟨false, ["a", "c"]⟩ .after (.activate "c")).1
        (sampleFiles.step ⟨false, ["a", "c"]⟩ .after (.activate "c")).2 (.activate "c") := by
  have hstart : Reachable sampleStart := .start (decodeFile_encode (by decide))
  have hregistered := hstart.call (c := .register { sampleAgent with id := "c" })
    (show rowValid _ = true by decide) ⟨false, ["a", "c"]⟩ .none
  have hactivated := hregistered.call (c := .activate "b") trivial ⟨false, ["a", "c"]⟩ .none
  have hreach : Reachable sampleFiles :=
    hactivated.call (c := .remove "a") trivial ⟨false, ["a", "c"]⟩ .before
  obtain ⟨-, hcache, hcalls⟩ := registry_file hreach
  refine ⟨by decide +kernel, by decide +kernel, hcache (by decide +kernel), ?_⟩
  exact (hcalls ⟨false, ["a", "c"]⟩ .after (.activate "c") trivial).2.2.1 (by decide +kernel)

/-- A rewrite that fails behind its rename, of a file that it changes. -/
lemma updateJson_after {s : Files} {change : Json → Except Error (Option Json)} {d d' : Document}
    (hd : decodeFile s.file = .ok d) (hc : change s.file = .ok (some (encode d')))
    (hne : d' ≠ d) :
    s.updateJson .after change =
      ({ s with file := encode d', written := s.written ++ [encode d'] }, .error .os) := by
  have hequal : Json.equal (encode d') s.file = false := by
    by_contra he
    exact hne (eq_of_equal (by simpa using he) hd)
  simp [updateJson, hc, hequal]

/-- A retirement that fails behind its rename leaves the cache behind; an activation that fails
there has changed the selection. -/
theorem failed_rename_shows :
    (¬ ∀ s c auth fault, Reachable s → Wellformed c →
      decodeFile (s.step auth fault c).1.file = .ok (s.step auth fault c).1.cache) ∧
    ¬ ∀ s id auth fault, Reachable s →
      selection (s.step auth fault (.activate id)).1.file ≠ selection s.file →
        (s.step auth fault (.activate id)).2 = .returned true := by
  have hdec : decode sampleTwo = .ok sampleTwo := by decide
  have hfile : decodeFile sampleStart.file = .ok sampleTwo := decodeFile_encode hdec
  have hreach : Reachable sampleStart := .start hfile
  constructor
  · intro h
    have hcache := h sampleStart .retireInvalid ⟨false, []⟩ .after hreach trivial
    have hretire : retireFile ⟨false, []⟩ sampleStart.file =
        .ok (some (encode ⟨[⟨"b", "B", .openclaw, "2026", none, false⟩], ""⟩)) :=
      (makes_retire ⟨false, []⟩ hdec).1 _ hfile
    have hafter : decode ⟨[⟨"b", "B", .openclaw, "2026", none, false⟩], ""⟩ =
        .ok ⟨[⟨"b", "B", .openclaw, "2026", none, false⟩], ""⟩ := by decide
    have hupdate := @updateJson_after sampleStart _ _ _ hfile hretire (by decide)
    simp only [step, hupdate, decodeFile_encode hafter] at hcache
    exact absurd (Except.ok.inj hcache) (by decide)
  · intro h
    have hactivate : activateFile ⟨false, []⟩ "b" sampleStart.file =
        .ok (some (encode ⟨sampleTwo.agents, "b"⟩)) :=
      (makes_activate ⟨false, []⟩ "b" hdec).1 _ hfile
    have hafter : decode ⟨sampleTwo.agents, "b"⟩ = .ok ⟨sampleTwo.agents, "b"⟩ := by decide
    have hupdate := @updateJson_after sampleStart _ _ _ hfile hactivate (by decide)
    have hget : (sampleStart.getById ⟨false, []⟩ "b").isNone = false := by decide
    have hstep : sampleStart.step ⟨false, []⟩ .after (.activate "b") =
        (⟨encode ⟨sampleTwo.agents, "b"⟩, ⟨sampleTwo.agents, "b"⟩,
          [encode ⟨sampleTwo.agents, "b"⟩], false⟩, .raised .os) := by
      simp only [step, hget, Bool.false_eq_true, if_false, commit, hupdate, publish,
        decodeFile_encode hafter]
      rfl
    have hreturn := h sampleStart "b" ⟨false, []⟩ .after hreach
    rw [hstep] at hreturn
    refine absurd (hreturn ?_) (by decide)
    rw [selection_of (decodeFile_encode hafter), selection_of hfile]
    decide

end Files

end Agents

end Vauxr
