import Vauxr.Snapshot

/-!
The routing metadata of `agents.json` (`agents/registry.py`): the document with its check, and
the changes that `register`, `retire_invalid` and `load` make to it.
-/

namespace Vauxr

namespace Agents

inductive AgentType
  | openclaw | openclawDirect
  deriving DecidableEq

/-- The `active` flag of an agent is recomputed from the selection whenever one is read. -/
structure Agent where
  id : String
  name : String
  type : AgentType
  createdAt : String
  builtin : Option Bool
  integration : Bool
  deriving DecidableEq

structure Document where
  agents : List Agent
  active : String
  deriving DecidableEq

def rowValid (a : Agent) : Bool :=
  a.id != "" && a.name != "" && a.createdAt != "" &&
    decide (a.type = .openclawDirect ↔ a.id = "openclaw-direct") &&
    !(a.type = .openclawDirect && (a.builtin != some true || a.integration))

/-- `_decode` on the values of a document. -/
def decode (d : Document) : Except Error Document :=
  match d.agents.findIdx? (!rowValid ·) with
  | some i => .error (.config ("agents[" ++ toString i ++ "]"))
  | none =>
    if !(d.agents.map (·.id)).Nodup || (d.active != "" && !(d.active ∈ d.agents.map (·.id))) then
      .error (.config "active_agent/agents")
    else .ok d

def direct (epoch : String) : Agent :=
  ⟨"openclaw-direct", "OpenClaw Direct", .openclawDirect, epoch, some true, false⟩

/-- An agent that is registered already keeps its name, and the selection stays. -/
def registerChange (agent : Agent) (d : Document) : Except Error Document := do
  let d ← decode d
  if d.agents.any (·.id == agent.id) then return d
  else return ⟨d.agents ++ [agent], d.active⟩

/-- Integration agents whose enrollment is no longer valid are dropped. -/
def retireChange (valid : List String) (d : Document) : Except Error Document := do
  let d ← decode d
  let retained := d.agents.filter fun a => !a.integration || a.id ∈ valid
  return ⟨retained, if retained.any (·.id == d.active) then d.active else ""⟩

def addDirectChange (epoch : String) (d : Document) : Except Error Document := do
  let d ← decode d
  return ⟨d.agents ++ [direct epoch],
    if d.active != "" then d.active else if d.agents.isEmpty then "openclaw-direct" else ""⟩

/-- The document of a first start. -/
def initial (openclaw : Bool) (epoch : String) : Document :=
  if openclaw then ⟨[direct epoch], "openclaw-direct"⟩ else ⟨[], ""⟩

/-- The file, and what the process keeps of it once it is loaded. -/
structure Registry where
  file : Option Document
  loaded : Option Document
  deriving DecidableEq

/-- The file, where there is one, passes its own check. -/
def Registry.Decodes (r : Registry) : Prop := ∀ d, r.file = some d → decode d = .ok d

/-! ### Documents that decode -/

lemma decode_eq_ok {d d' : Document} :
    decode d = .ok d' ↔ d' = d ∧ (∀ a ∈ d.agents, rowValid a = true) ∧
      (d.agents.map (·.id)).Nodup ∧ (d.active = "" ∨ d.active ∈ d.agents.map (·.id)) := by
  unfold decode
  split
  · next i hi =>
    obtain ⟨hlt, h, -⟩ := List.findIdx?_eq_some_iff_getElem.mp hi
    refine ⟨fun h => (nomatch h), fun ⟨_, hall, _⟩ => ?_⟩
    rw [hall _ (List.getElem_mem hlt)] at h
    cases h
  · next hnone =>
    simp only [List.findIdx?_eq_none_iff, Bool.not_eq_false'] at hnone
    split
    · next hc =>
      refine ⟨fun h => (nomatch h), fun ⟨_, _, hn, ha⟩ => ?_⟩
      simp only [hn, Bool.or_eq_true, Bool.and_eq_true, bne_iff_ne] at hc
      rcases ha with ha | ha
      · simp [ha] at hc
      · simp [ha] at hc
    · next hc =>
      simp only [Bool.not_eq_true, Bool.or_eq_false_iff, Bool.not_eq_false', decide_eq_true_eq,
        Bool.and_eq_false_iff, bne_eq_false_iff_eq] at hc
      exact ⟨fun h => by cases h; exact ⟨rfl, hnone, hc.1, hc.2⟩, fun ⟨h, _⟩ => by rw [h]⟩

lemma eq_of_decode {d d' : Document} (h : decode d = .ok d') : d' = d := (decode_eq_ok.mp h).1

lemma decode_initial (openclaw : Bool) {epoch : String} (he : epoch ≠ "") :
    decode (initial openclaw epoch) = .ok (initial openclaw epoch) := by
  rw [decode_eq_ok]
  cases openclaw <;> simp [initial, direct, rowValid, he]

lemma decode_addDirect {d : Document} {epoch : String} (h : decode d = .ok d)
    (hnew : d.agents.any (·.id == "openclaw-direct") = false) (he : epoch ≠ "") :
    let d' : Document := ⟨d.agents ++ [direct epoch],
      if d.active != "" then d.active else if d.agents.isEmpty then "openclaw-direct" else ""⟩
    decode d' = .ok d' := by
  obtain ⟨-, hrow, hn, ha⟩ := decode_eq_ok.mp h
  refine decode_eq_ok.mpr ⟨rfl, ?_, ?_, ?_⟩
  · intro a hmem
    rcases List.mem_append.mp hmem with hmem | hmem
    · exact hrow a hmem
    · rw [List.mem_singleton.mp hmem]
      simp [direct, rowValid, he]
  · rw [List.map_append, List.nodup_append]
    refine ⟨hn, by simp, ?_⟩
    rintro x hx y hy rfl
    obtain ⟨a, hmem, rfl⟩ := List.mem_map.mp hx
    have := List.any_eq_false.mp hnew a hmem
    simp [direct] at hy
    simp [hy] at this
  · dsimp only
    split
    · next hne =>
      right
      rw [List.map_append, List.mem_append]
      exact Or.inl (ha.resolve_left (by simpa using hne))
    · split
      · right
        simp [direct]
      · exact Or.inl rfl

lemma decode_register {agent : Agent} (hv : rowValid agent = true) {d : Document}
    (h : decode d = .ok d) :
    ∃ d', (if d.agents.any (·.id == agent.id) then (.ok d : Except Error Document)
      else .ok ⟨d.agents ++ [agent], d.active⟩) = .ok d' ∧ decode d' = .ok d' := by
  split
  · exact ⟨d, rfl, h⟩
  · next hnew =>
    obtain ⟨-, hrow, hn, ha⟩ := decode_eq_ok.mp h
    refine ⟨_, rfl, decode_eq_ok.mpr ⟨rfl, ?_, ?_, ?_⟩⟩
    · intro a hmem
      rcases List.mem_append.mp hmem with hmem | hmem
      · exact hrow a hmem
      · rwa [List.mem_singleton.mp hmem]
    · rw [List.map_append, List.nodup_append]
      refine ⟨hn, by simp, ?_⟩
      rintro x hx y hy rfl
      obtain ⟨a, hmem, rfl⟩ := List.mem_map.mp hx
      refine hnew (List.any_eq_true.mpr ⟨a, hmem, ?_⟩)
      simpa using hy
    · rw [List.map_append, List.mem_append]
      exact ha.imp_right Or.inl

lemma decode_retire (valid : List String) {d : Document} (h : decode d = .ok d) :
    let retained := d.agents.filter fun a => !a.integration || a.id ∈ valid
    ∃ d', (.ok ⟨retained, if retained.any (·.id == d.active) then d.active else ""⟩ :
      Except Error Document) = .ok d' ∧ decode d' = .ok d' := by
  obtain ⟨-, hrow, hn, -⟩ := decode_eq_ok.mp h
  refine ⟨_, rfl, decode_eq_ok.mpr ⟨rfl, ?_, ?_, ?_⟩⟩
  · exact fun a hmem => hrow a (List.mem_of_mem_filter hmem)
  · exact hn.sublist (List.filter_sublist.map _)
  · dsimp only
    split
    · next hany =>
      right
      obtain ⟨a, hmem, he⟩ := List.any_eq_true.mp hany
      exact List.mem_map.mpr ⟨a, hmem, by simpa using he⟩
    · exact Or.inl rfl

end Agents

end Vauxr
