import Vauxr.Lib.Dict

/-!
The live devices (`devices/registry.py`).

Entries and abort events are objects of the source; here they are told apart by numbers that are
given out once. Of an entry only the socket, the state and the abort event are kept.
-/

namespace Vauxr.Voice

open Vauxr.Lib

inductive DeviceState
  | idle | listening | processing | speaking | offline
  deriving DecidableEq

structure Entry where
  key : ℕ
  ws : ℕ
  state : DeviceState
  abortEvent : Option ℕ
  deriving DecidableEq

/-- `set` are the abort events that are set, `next` is the next number to give out. -/
structure Registry where
  devices : Dict String Entry
  set : List ℕ
  next : ℕ

namespace Registry

def empty : Registry := ⟨Dict.empty, [], 0⟩

def get? (r : Registry) (deviceId : String) : Option Entry := r.devices.get? deviceId

/-- A change of the entry of a device, where it has one. -/
def modify (r : Registry) (deviceId : String) (f : Entry → Entry) : Registry :=
  match r.get? deviceId with
  | some entry => { r with devices := r.devices.set deviceId (f entry) }
  | none => r

def setState (r : Registry) (deviceId : String) (state : DeviceState) : Registry :=
  r.modify deviceId fun entry => { entry with state }

def setAbortEvent (r : Registry) (deviceId : String) (event : Option ℕ) : Registry :=
  r.modify deviceId fun entry => { entry with abortEvent := event }

def abortActiveTurn (r : Registry) (deviceId : String) : Registry :=
  match (r.get? deviceId).bind (·.abortEvent) with
  | some event => { r.setAbortEvent deviceId none with set := event :: r.set }
  | none => r

/-- A new entry in the place of the old one, whose turn is aborted. -/
def register (r : Registry) (deviceId : String) (ws : ℕ) : Registry :=
  let r := r.abortActiveTurn deviceId
  { r with devices := r.devices.set deviceId ⟨r.next, ws, .idle, none⟩, next := r.next + 1 }

/-- Only the socket that still owns the device takes it out. -/
def unregister (r : Registry) (deviceId : String) (ws : ℕ) : Registry :=
  match r.get? deviceId with
  | some entry =>
    if entry.ws = ws then
      let r := r.abortActiveTurn deviceId
      { r with devices := r.devices.erase deviceId }
    else r
  | none => r

/-- A number that was not given out before. -/
def fresh (r : Registry) : ℕ × Registry := (r.next, { r with next := r.next + 1 })

/-! ### Reading back -/

variable {r : Registry} {d d' : String}

lemma get?_modify (f : Entry → Entry) :
    (r.modify d f).get? d' = if d = d' then (r.get? d).map f else r.get? d' := by
  unfold modify
  cases h : r.get? d with
  | none =>
    by_cases hd : d = d'
    · subst hd
      simp [h]
    · simp [hd]
  | some entry => simp [get?]

@[simp] lemma set_modify (f : Entry → Entry) : (r.modify d f).set = r.set := by
  unfold modify
  split <;> rfl

@[simp] lemma next_modify (f : Entry → Entry) : (r.modify d f).next = r.next := by
  unfold modify
  split <;> rfl

@[simp] lemma set_setState (state : DeviceState) : (r.setState d state).set = r.set :=
  set_modify _

@[simp] lemma next_setState (state : DeviceState) : (r.setState d state).next = r.next :=
  next_modify _

@[simp] lemma next_abortActiveTurn : (r.abortActiveTurn d).next = r.next := by
  unfold abortActiveTurn
  split
  · exact next_modify _
  · rfl

/-- Aborting the turn of a device leaves its entry without an abort event. -/
lemma get?_abortActiveTurn : (r.abortActiveTurn d).get? d' =
    if d = d' then (r.get? d).map fun entry => { entry with abortEvent := none }
    else r.get? d' := by
  unfold abortActiveTurn
  cases h : (r.get? d).bind (·.abortEvent) with
  | some event =>
    exact get?_modify fun entry => { entry with abortEvent := none }
  | none =>
    by_cases hd : d = d'
    · subst hd
      rw [if_pos rfl]
      cases he : r.get? d with
      | none => rfl
      | some entry =>
        have hn : entry.abortEvent = none := by simpa [he] using h
        obtain ⟨key, ws, state, abortEvent⟩ := entry
        simp_all
    · rw [if_neg hd]

lemma mem_set_abortActiveTurn {event : ℕ} : event ∈ (r.abortActiveTurn d).set ↔
    event ∈ r.set ∨ ∃ entry, r.get? d = some entry ∧ entry.abortEvent = some event := by
  unfold abortActiveTurn
  cases he : r.get? d with
  | none => simp
  | some entry =>
    cases ha : entry.abortEvent with
    | none => simp [ha]
    | some a =>
      simp only [Option.bind_some, ha, List.mem_cons, Option.some.injEq, exists_eq_left']
      constructor
      · rintro (rfl | h)
        · exact Or.inr rfl
        · exact Or.inl h
      · rintro (h | rfl)
        · exact Or.inr h
        · exact Or.inl rfl

lemma get?_register (ws : ℕ) : (r.register d ws).get? d' =
    if d = d' then some ⟨r.next, ws, .idle, none⟩ else r.get? d' := by
  have h := @get?_abortActiveTurn r d d'
  by_cases hd : d = d'
  · simp [register, get?, hd]
  · rw [if_neg hd] at h ⊢
    simpa [register, get?, hd] using h

@[simp] lemma set_register (ws : ℕ) : (r.register d ws).set = (r.abortActiveTurn d).set := rfl

lemma get?_unregister (ws : ℕ) : (r.unregister d ws).get? d' =
    if d = d' ∧ ∃ entry, r.get? d = some entry ∧ entry.ws = ws then none else r.get? d' := by
  unfold unregister
  cases he : r.get? d with
  | none => simp
  | some entry =>
    by_cases hws : entry.ws = ws
    · have h := @get?_abortActiveTurn r d d'
      by_cases hd : d = d'
      · simp [hws, hd, get?]
      · have hd' : ¬d' = d := fun h' => hd h'.symm
        rw [if_neg hd] at h
        simpa [hws, hd, hd', get?] using h
    · simp [hws]

end Registry

end Vauxr.Voice
