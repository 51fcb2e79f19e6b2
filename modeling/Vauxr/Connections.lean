import Mathlib
import Vauxr.Lib.Dict
import Vauxr.Lib.Run

/-!
Retained transport authority (`auth/connections.py`).

A teardown has a slot for the task that runs its close callback, and any number of callers wait
for that task, each for two seconds. `disconnect_stale` tears down the retained connections whose
credential is no longer current, one child task for each; `run_teardowns` does the same for a list
of its caller's own, which is left out. A callback may succeed, raise, hang, or ignore that it is
cancelled.
-/

namespace Vauxr.Connections

open Lib

/-- A task that is cancelled has failed. -/
inductive Progress
  | running | closed | failed
  deriving DecidableEq

/-- A close task of the teardown `owner`. -/
structure Task where
  owner : ℕ
  progress : Progress
  cancelling : Bool
  deriving DecidableEq

/-- `current` is what the store says of the principal, and `retained` is membership in
`_connections`. -/
structure Connection where
  path : String
  current : Bool
  retained : Bool
  retiring : Bool
  deriving DecidableEq

/-- The child task of a call for one teardown: made, waiting for a close task, or over. -/
inductive Child
  | created
  | waiting (task : ℕ)
  | returned
  | raised
  deriving DecidableEq

/-- A call of `disconnect_stale`, or of `run_teardowns`; a result of false is the error. -/
structure Call where
  disconnects : Bool
  children : Dict ℕ Child
  result : Option Bool

/-- `slots` holds the field `task` of each teardown. -/
structure World where
  connections : Dict ℕ Connection
  slots : Dict ℕ ℕ
  tasks : Dict ℕ Task
  calls : Dict ℕ Call
  next : ℕ
  released : List ℕ

namespace World

def empty : World := ⟨Dict.empty, Dict.empty, Dict.empty, Dict.empty, 0, []⟩

def modify (w : World) (k : ℕ) (f : Connection → Connection) : World :=
  match w.connections.get? k with
  | some c => { w with connections := w.connections.set k (f c) }
  | none => w

def child? (w : World) (i k : ℕ) : Option (Call × Child) :=
  (w.calls.get? i).bind fun call => (call.children.get? k).map fun child => (call, child)

def setChild (w : World) (i k : ℕ) (call : Call) (child : Child) : World :=
  { w with calls := w.calls.set i { call with children := call.children.set k child } }

def retain (w : World) (path : String) (current : Bool) : World :=
  { w with
    connections := w.connections.set w.next ⟨path, current, true, false⟩
    next := w.next + 1 }

def release (w : World) (k : ℕ) : World :=
  match w.connections.get? k with
  | some c =>
    if c.retiring then w
    else { w.modify k fun c => { c with retained := false } with released := k :: w.released }
  | none => w

def stale (w : World) (path : String) : List ℕ :=
  (w.connections.entries.filter fun e => e.2.retained && e.2.path == path && !e.2.current).map
    Prod.fst

/-- One child for each of the keys. -/
def children (ks : List ℕ) : Dict ℕ Child :=
  ks.foldl (fun d k => d.set k .created) Dict.empty

def call (w : World) (disconnects : Bool) (ks : List ℕ) : World :=
  { w with
    calls := w.calls.set w.next ⟨disconnects, children ks, none⟩
    next := w.next + 1 }

/-- The first step of a child: it joins the task that is in flight, or makes one. -/
def start (w : World) (i k : ℕ) : World :=
  match w.child? i k with
  | some (call, .created) =>
    let w := if call.disconnects then w.modify k fun c => { c with retiring := true } else w
    match w.slots.get? k with
    | some t => w.setChild i k call (.waiting t)
    | none =>
      { w.setChild i k call (.waiting w.next) with
        tasks := w.tasks.set w.next ⟨k, .running, false⟩
        slots := w.slots.set k w.next
        next := w.next + 1 }
  | _ => w

/-- The end of a child, with what `disconnect_stale` makes of it. -/
def endChild (w : World) (i k : ℕ) (call : Call) (ok : Bool) : World :=
  let w := w.setChild i k call (if ok then .returned else .raised)
  if call.disconnects then w.modify k fun c => { c with retained := !ok } else w

/-- The wait of a child is over because its task is. -/
def wake (w : World) (i k : ℕ) : World :=
  match w.child? i k with
  | some (call, .waiting t) =>
    match w.tasks.get? t with
    | some task =>
      if task.progress = .running then w
      else
        let slots := if w.slots.get? k = some t then w.slots.erase k else w.slots
        { w with slots }.endChild i k call (decide (task.progress = Progress.closed))
    | none => w
  | _ => w

/-- The wait of a child is over because its time is. -/
def timeout (w : World) (i k : ℕ) : World :=
  match w.child? i k with
  | some (call, .waiting t) =>
    match w.tasks.get? t with
    | some task =>
      if task.progress = .running then
        { w with tasks := w.tasks.set t { task with cancelling := true } }.endChild i k call false
      else w
    | none => w
  | _ => w

/-- A child is cancelled with its caller. Before its first step it does nothing at all. -/
def cancel (w : World) (i k : ℕ) : World :=
  match w.child? i k with
  | some (call, .created) => w.setChild i k call .raised
  | some (call, .waiting _) => w.endChild i k call false
  | _ => w

def finish (w : World) (t : ℕ) (ok : Bool) : World :=
  match w.tasks.get? t with
  | some task =>
    if task.progress = .running then
      { w with tasks := w.tasks.set t { task with progress := if ok then .closed else .failed } }
    else w
  | none => w

def Child.over : Child → Bool
  | .returned | .raised => true
  | _ => false

/-- A call ends when all its children have. -/
def finishCall (w : World) (i : ℕ) : World :=
  match w.calls.get? i with
  | some call =>
    if call.result = none ∧ call.children.values.all Child.over = true then
      let result := call.children.values.all fun child => decide (child = .returned)
      { w with calls := w.calls.set i { call with result := some result } }
    else w
  | none => w

end World

inductive Action
  | retain (path : String) (current : Bool)
  | release (connection : ℕ)
  | authority (connection : ℕ) (current : Bool)
  | disconnectStale (path : String)
  | runTeardowns (attempts : List ℕ)
  | start (call teardown : ℕ)
  | wake (call teardown : ℕ)
  | timeout (call teardown : ℕ)
  | cancel (call teardown : ℕ)
  | finish (task : ℕ) (ok : Bool)
  | finishCall (call : ℕ)

def step (w : World) : Action → World
  | .retain path current => w.retain path current
  | .release k => w.release k
  | .authority k current => w.modify k fun c => { c with current }
  | .disconnectStale path => w.call true (w.stale path)
  | .runTeardowns attempts => w.call false attempts
  | .start i k => w.start i k
  | .wake i k => w.wake i k
  | .timeout i k => w.timeout i k
  | .cancel i k => w.cancel i k
  | .finish t ok => w.finish t ok
  | .finishCall i => w.finishCall i

/-! ### The invariant -/

namespace World

/-- A close of the teardown has succeeded. -/
def Closed (w : World) (k : ℕ) : Prop :=
  ∃ task, task.owner = k ∧ task.progress = .closed ∧ ∃ t, w.tasks.get? t = some task

/-- `t` runs the close callback of `k`. -/
def Running (w : World) (t k : ℕ) : Prop :=
  ∃ task, w.tasks.get? t = some task ∧ task.owner = k ∧ task.progress = .running

/-- A child of some call for `k` stands at `child`. -/
def ChildAt (w : World) (k : ℕ) (child : Child) : Prop :=
  ∃ i call, w.calls.get? i = some call ∧ call.children.get? k = some child

/-- What holds between any two steps. A task is told from others by its number, and a running
one is in the slot of its owner. -/
structure Sound (w : World) : Prop where
  fresh : ∀ t task, w.tasks.get? t = some task → t < w.next
  unused : ∀ i call, w.calls.get? i = some call → i < w.next
  slot : ∀ t k, w.Running t k → w.slots.get? k = some t
  owner : ∀ k t, w.slots.get? k = some t → ∃ task, w.tasks.get? t = some task ∧ task.owner = k
  waiting : ∀ k t, w.ChildAt k (.waiting t) →
    ∃ task, w.tasks.get? t = some task ∧ task.owner = k
  returned : ∀ k, w.ChildAt k .returned → w.Closed k
  retained : ∀ k c, w.connections.get? k = some c →
    c.retained = true ∨ k ∈ w.released ∨ w.Closed k
  result : ∀ i call, w.calls.get? i = some call → call.result = some true →
    ∀ k child, call.children.get? k = some child → child = .returned

lemma sound_empty : empty.Sound where
  fresh := by simp [empty]
  unused := by simp [empty]
  slot := by simp [empty, Running]
  owner := by simp [empty]
  waiting := by simp [empty, ChildAt]
  returned := by simp [empty, ChildAt]
  retained := by simp [empty]
  result := by simp [empty]

variable {w : World} {k i t : ℕ}

@[simp] lemma tasks_modify (f : Connection → Connection) : (w.modify k f).tasks = w.tasks := by
  unfold modify
  split <;> rfl

@[simp] lemma calls_modify (f : Connection → Connection) : (w.modify k f).calls = w.calls := by
  unfold modify
  split <;> rfl

@[simp] lemma slots_modify (f : Connection → Connection) : (w.modify k f).slots = w.slots := by
  unfold modify
  split <;> rfl

@[simp] lemma next_modify (f : Connection → Connection) : (w.modify k f).next = w.next := by
  unfold modify
  split <;> rfl

@[simp] lemma released_modify (f : Connection → Connection) :
    (w.modify k f).released = w.released := by
  unfold modify
  split <;> rfl

lemma get?_modify (f : Connection → Connection) (k' : ℕ) :
    (w.modify k f).connections.get? k' =
      if k = k' then (w.connections.get? k).map f else w.connections.get? k' := by
  unfold modify
  cases h : w.connections.get? k with
  | none =>
    by_cases hk : k = k'
    · subst hk
      simp [h]
    · simp [hk]
  | some c => simp

@[simp] lemma closed_modify (f : Connection → Connection) (k' : ℕ) :
    (w.modify k f).Closed k' ↔ w.Closed k' := by
  simp [Closed]

@[simp] lemma running_modify (f : Connection → Connection) (t k' : ℕ) :
    (w.modify k f).Running t k' ↔ w.Running t k' := by
  simp [Running]

@[simp] lemma childAt_modify (f : Connection → Connection) (k' : ℕ) (child : Child) :
    (w.modify k f).ChildAt k' child ↔ w.ChildAt k' child := by
  simp [ChildAt]

/-- A change of a connection that leaves it retained, or that its close or release allows. -/
lemma Sound.modify (h : w.Sound) {f : Connection → Connection}
    (hf : ∀ c, w.connections.get? k = some c →
      (f c).retained = true ∨ k ∈ w.released ∨ w.Closed k) : (w.modify k f).Sound where
  fresh := by simpa using h.fresh
  unused := by simpa using h.unused
  slot := by simpa using h.slot
  owner := by simpa using h.owner
  waiting := by simpa using h.waiting
  returned := by simpa using h.returned
  retained := by
    intro k' c hc
    rw [get?_modify] at hc
    simp only [released_modify, closed_modify]
    by_cases hk : k = k'
    · subst hk
      rw [if_pos rfl, Option.map_eq_some_iff] at hc
      obtain ⟨c₀, h₀, rfl⟩ := hc
      exact hf c₀ h₀
    · rw [if_neg hk] at hc
      exact h.retained k' c hc
  result := by simpa using h.result

lemma child?_eq {call : Call} {child : Child} (h : w.child? i k = some (call, child)) :
    w.calls.get? i = some call ∧ call.children.get? k = some child := by
  unfold child? at h
  cases hi : w.calls.get? i with
  | none => simp [hi] at h
  | some call' =>
    simp only [hi, Option.bind_some, Option.map_eq_some_iff, Prod.mk.injEq] at h
    obtain ⟨child', hk, rfl, rfl⟩ := h
    exact ⟨rfl, hk⟩

lemma childAt_setChild {call : Call} {child child' : Child}
    (hc : w.child? i k = some (call, child)) {k' : ℕ} {x : Child}
    (hx : (w.setChild i k call child').ChildAt k' x) : k' = k ∧ x = child' ∨ w.ChildAt k' x := by
  obtain ⟨hi, -⟩ := child?_eq hc
  obtain ⟨j, call', hj, hk'⟩ := hx
  simp only [setChild, Dict.get?_set] at hj
  by_cases hij : i = j
  · rw [if_pos hij, Option.some.injEq] at hj
    subst hj
    simp only [Dict.get?_set] at hk'
    by_cases hkk : k = k'
    · rw [if_pos hkk, Option.some.injEq] at hk'
      exact Or.inl ⟨hkk.symm, hk'.symm⟩
    · rw [if_neg hkk] at hk'
      exact Or.inr ⟨i, call, hi, hk'⟩
  · rw [if_neg hij] at hj
    exact Or.inr ⟨j, call', hj, hk'⟩

/-- A child moves on. -/
lemma Sound.setChild (h : w.Sound) {call : Call} {child child' : Child}
    (hc : w.child? i k = some (call, child)) (hover : child ≠ .returned)
    (hw : ∀ t, child' = .waiting t → ∃ task, w.tasks.get? t = some task ∧ task.owner = k)
    (hr : child' = .returned → w.Closed k) : (w.setChild i k call child').Sound where
  fresh := h.fresh
  unused := by
    intro j call' hj
    simp only [World.setChild, Dict.get?_set] at hj
    by_cases hij : i = j
    · subst hij
      exact h.unused i call (child?_eq hc).1
    · rw [if_neg hij] at hj
      exact h.unused j call' hj
  slot := h.slot
  owner := h.owner
  waiting := by
    intro k' t hx
    rcases childAt_setChild hc hx with ⟨rfl, he⟩ | hx
    · exact hw t he.symm
    · exact h.waiting k' t hx
  returned := by
    intro k' hx
    rcases childAt_setChild hc hx with ⟨rfl, he⟩ | hx
    · exact hr he.symm
    · exact h.returned k' hx
  retained := h.retained
  result := by
    intro j call' hj hres k' x hx
    simp only [World.setChild, Dict.get?_set] at hj
    by_cases hij : i = j
    · rw [if_pos hij, Option.some.injEq] at hj
      subst hj
      exact absurd (h.result i call (child?_eq hc).1 hres k child (child?_eq hc).2) hover
    · rw [if_neg hij] at hj
      exact h.result j call' hj hres k' x hx

/-- A running task becomes another, or a task is made: what was closed stays closed. -/
lemma closed_setTask {task' : Task} (ht : ∀ task, w.tasks.get? t = some task →
    task.progress = .running) {k : ℕ} (h : w.Closed k) :
    Closed { w with tasks := w.tasks.set t task' } k := by
  obtain ⟨task, ho, hp, t₀, h₀⟩ := h
  refine ⟨task, ho, hp, t₀, ?_⟩
  have hne : t ≠ t₀ := by
    rintro rfl
    rw [ht task h₀] at hp
    cases hp
  simp [hne, h₀]

/-- A task that takes a free slot. -/
lemma Sound.make (h : w.Sound) (hk : w.slots.get? k = none) :
    Sound { w with
      tasks := w.tasks.set w.next ⟨k, .running, false⟩
      slots := w.slots.set k w.next
      next := w.next + 1 } := by
  have hnew : ∀ t task, w.tasks.get? t = some task → w.next ≠ t := by
    intro t task ht
    have := h.fresh t task ht
    omega
  have hclosed : ∀ k', w.Closed k' →
      Closed { w with tasks := w.tasks.set w.next ⟨k, .running, false⟩ } k' := fun k' hc =>
    closed_setTask (fun task ht => absurd rfl (hnew _ task ht)) hc
  exact
    { fresh := by
        intro t task ht
        simp only [Dict.get?_set] at ht ⊢
        split at ht
        · omega
        · exact Nat.lt_succ_of_lt (h.fresh t task ht)
      unused := fun i call hi => Nat.lt_succ_of_lt (h.unused i call hi)
      slot := by
        rintro t k' ⟨task, ht, ho, hp⟩
        simp only [Dict.get?_set] at ht ⊢
        split at ht
        · next hn =>
          cases ht
          rw [if_pos ho, hn]
        · have hslot := h.slot t k' ⟨task, ht, ho, hp⟩
          have hne : k ≠ k' := by
            rintro rfl
            rw [hk] at hslot
            cases hslot
          rw [if_neg hne]
          exact hslot
      owner := by
        intro k' t ht
        simp only [Dict.get?_set] at ht ⊢
        split at ht
        · next hkk =>
          cases ht
          exact ⟨_, by rw [if_pos rfl], hkk⟩
        · obtain ⟨task, htask, ho⟩ := h.owner k' t ht
          exact ⟨task, by rw [if_neg (hnew t task htask)]; exact htask, ho⟩
      waiting := by
        intro k' t hx
        obtain ⟨task, htask, ho⟩ := h.waiting k' t hx
        refine ⟨task, ?_, ho⟩
        simp only [Dict.get?_set]
        rw [if_neg (hnew t task htask)]
        exact htask
      returned := fun k' hx => hclosed k' (h.returned k' hx)
      retained := fun k' c hc => (h.retained k' c hc).imp_right (Or.imp_right (hclosed k'))
      result := h.result }

/-- A slot is cleared of a task that is over. -/
lemma Sound.clear (h : w.Sound) {task : Task} (ht : w.tasks.get? t = some task)
    (hover : task.progress ≠ .running) :
    Sound { w with slots := if w.slots.get? k = some t then w.slots.erase k else w.slots } where
  fresh := h.fresh
  unused := h.unused
  slot := by
    rintro t' k' ⟨task', ht', ho, hp⟩
    have hslot := h.slot t' k' ⟨task', ht', ho, hp⟩
    dsimp only
    split
    · next hk =>
      have hne : k' ≠ k := by
        rintro rfl
        rw [hk, Option.some.injEq] at hslot
        subst hslot
        rw [ht, Option.some.injEq] at ht'
        subst ht'
        exact hover hp
      rw [Dict.get?_erase, if_neg hne]
      exact hslot
    · exact hslot
  owner := by
    intro k' t' ht'
    dsimp only at ht'
    split at ht'
    · rw [Dict.get?_erase] at ht'
      split at ht'
      · cases ht'
      · exact h.owner k' t' ht'
    · exact h.owner k' t' ht'
  waiting := h.waiting
  returned := h.returned
  retained := h.retained
  result := h.result

/-- A task goes on, is cancelled, or ends. -/
lemma Sound.setTask (h : w.Sound) {task task' : Task} (ht : w.tasks.get? t = some task)
    (hrun : task.progress = .running) (howner : task'.owner = task.owner) :
    Sound { w with tasks := w.tasks.set t task' } := by
  have hclosed : ∀ k, w.Closed k → Closed { w with tasks := w.tasks.set t task' } k :=
    fun k hc => closed_setTask (fun task₁ h₁ => by
      rw [ht, Option.some.injEq] at h₁
      rw [← h₁, hrun]) hc
  have howned : ∀ k t₁, (∃ task, w.tasks.get? t₁ = some task ∧ task.owner = k) →
      ∃ task, (w.tasks.set t task').get? t₁ = some task ∧ task.owner = k := by
    rintro k t₁ ⟨task₁, h₁, ho⟩
    rw [Dict.get?_set]
    split
    · next he =>
      subst he
      rw [ht, Option.some.injEq] at h₁
      exact ⟨task', rfl, by rw [howner, h₁, ho]⟩
    · exact ⟨task₁, h₁, ho⟩
  exact
    { fresh := by
        intro t₁ task₁ h₁
        simp only [Dict.get?_set] at h₁
        split at h₁
        · next he => exact he ▸ h.fresh t task ht
        · exact h.fresh t₁ task₁ h₁
      unused := h.unused
      slot := by
        rintro t₁ k ⟨task₁, h₁, ho, hp⟩
        simp only [Dict.get?_set] at h₁
        split at h₁
        · next he =>
          cases h₁
          exact h.slot t₁ k ⟨task, he ▸ ht, howner ▸ ho, hrun⟩
        · exact h.slot t₁ k ⟨task₁, h₁, ho, hp⟩
      owner := fun k t₁ h₁ => howned k t₁ (h.owner k t₁ h₁)
      waiting := fun k t₁ hx => howned k t₁ (h.waiting k t₁ hx)
      returned := fun k hx => hclosed k (h.returned k hx)
      retained := fun k c hc => (h.retained k c hc).imp_right (Or.imp_right (hclosed k))
      result := h.result }

/-- A child ends with its wait. -/
lemma Sound.endChild (h : w.Sound) {call : Call} {child : Child} {ok : Bool}
    (hc : w.child? i k = some (call, child)) (hover : child ≠ .returned)
    (hok : ok = true → w.Closed k) : (w.endChild i k call ok).Sound := by
  have hs : (w.setChild i k call (if ok then .returned else .raised)).Sound := by
    refine h.setChild hc hover ?_ ?_
    · intro t ht
      cases ok <;> cases ht
    · intro hr
      cases ok with
      | true => exact hok rfl
      | false => cases hr
  unfold World.endChild
  dsimp only
  split
  · refine hs.modify fun c _ => ?_
    cases ok with
    | true => exact Or.inr (Or.inr (hok rfl))
    | false => exact Or.inl rfl
  · exact hs

lemma Sound.start (h : w.Sound) (i k : ℕ) : (w.start i k).Sound := by
  unfold World.start
  split
  · next call hc =>
    set w₁ := if call.disconnects then w.modify k fun c => { c with retiring := true } else w
      with hw₁
    have h₁ : w₁.Sound := by
      rw [hw₁]
      split
      · exact h.modify fun c hk => h.retained k c hk
      · exact h
    have hc₁ : w₁.child? i k = some (call, .created) := by
      have hcalls : w₁.calls = w.calls := by
        rw [hw₁]
        split
        · exact calls_modify _
        · rfl
      unfold World.child? at hc ⊢
      rw [hcalls]
      exact hc
    dsimp only
    cases hslot : w₁.slots.get? k with
    | some t =>
      refine h₁.setChild hc₁ (by simp) ?_ (by simp)
      rintro t' ⟨⟩
      exact h₁.owner k t hslot
    | none =>
      have hm := h₁.make hslot
      refine @Sound.setChild _ k i hm call .created (.waiting w₁.next) hc₁ (by simp) ?_ (by simp)
      rintro t' ⟨⟩
      exact ⟨_, Dict.get?_set_self _ _ _, rfl⟩
  · exact h

lemma Sound.wake (h : w.Sound) (i k : ℕ) : (w.wake i k).Sound := by
  unfold World.wake
  split
  · next call t hc =>
    cases ht : w.tasks.get? t with
    | none => exact h
    | some task =>
      dsimp only
      split
      · exact h
      · next hover =>
        refine (h.clear (k := k) ht hover).endChild hc (by simp) fun hok => ?_
        obtain ⟨task', ht', ho⟩ := h.waiting k t ⟨i, call, (child?_eq hc).1, (child?_eq hc).2⟩
        rw [ht, Option.some.injEq] at ht'
        subst ht'
        exact ⟨task, ho, of_decide_eq_true hok, t, ht⟩
  · exact h

lemma Sound.timeout (h : w.Sound) (i k : ℕ) : (w.timeout i k).Sound := by
  unfold World.timeout
  split
  · next call t hc =>
    cases ht : w.tasks.get? t with
    | none => exact h
    | some task =>
      dsimp only
      split
      · next hrun =>
        have hs : Sound { w with tasks := w.tasks.set t { task with cancelling := true } } :=
          h.setTask ht hrun rfl
        refine hs.endChild hc (by simp) ?_
        simp
      · exact h
  · exact h

lemma Sound.cancel (h : w.Sound) (i k : ℕ) : (w.cancel i k).Sound := by
  unfold World.cancel
  split
  · next call hc => exact h.setChild hc (by simp) (by simp) (by simp)
  · next call t hc => exact h.endChild hc (by simp) fun hok => by cases hok
  · exact h

lemma Sound.release (h : w.Sound) (k : ℕ) : (w.release k).Sound := by
  have hr : Sound { w with released := k :: w.released } :=
    { fresh := h.fresh
      unused := h.unused
      slot := h.slot
      owner := h.owner
      waiting := h.waiting
      returned := h.returned
      retained := fun k' c hc =>
        (h.retained k' c hc).imp_right (Or.imp_left (List.mem_cons_of_mem k))
      result := h.result }
  unfold World.release
  split
  · split
    · exact h
    · have hm : ({ w with released := k :: w.released }.modify k fun c =>
          { c with retained := false }).Sound :=
        hr.modify fun c _ => Or.inr (Or.inl List.mem_cons_self)
      unfold World.modify at hm ⊢
      dsimp only at hm
      cases hk : w.connections.get? k <;> simpa [hk] using hm
  · exact h

lemma children_created {ks : List ℕ} {child : Child} (h : (children ks).get? k = some child) :
    child = .created := by
  unfold children at h
  have hgen : ∀ (l : List ℕ) (d : Dict ℕ Child),
      (∀ x, d.get? k = some x → x = .created) →
      ∀ x, (l.foldl (fun d k => d.set k .created) d).get? k = some x → x = .created := by
    intro l
    induction l with
    | nil => exact fun d hd => hd
    | cons j l ih =>
      intro d hd
      refine ih _ fun x hx => ?_
      rw [Dict.get?_set] at hx
      split at hx
      · exact (Option.some.inj hx).symm
      · exact hd x hx
  exact hgen ks Dict.empty (by simp) child h

lemma Sound.call (h : w.Sound) (disconnects : Bool) (ks : List ℕ) :
    (w.call disconnects ks).Sound := by
  have hchild : ∀ k child, (w.call disconnects ks).ChildAt k child →
      child = .created ∨ w.ChildAt k child := by
    rintro k child ⟨i, call, hi, hk⟩
    simp only [World.call, Dict.get?_set] at hi
    split at hi
    · cases hi
      exact Or.inl (children_created hk)
    · exact Or.inr ⟨i, call, hi, hk⟩
  exact
    { fresh := fun t task ht => Nat.lt_succ_of_lt (h.fresh t task ht)
      unused := by
        intro i call hi
        simp only [World.call, Dict.get?_set] at hi ⊢
        split at hi
        · omega
        · exact Nat.lt_succ_of_lt (h.unused i call hi)
      slot := h.slot
      owner := h.owner
      waiting := by
        intro k t hx
        rcases hchild k _ hx with hx | hx
        · cases hx
        · exact h.waiting k t hx
      returned := by
        intro k hx
        rcases hchild k _ hx with hx | hx
        · cases hx
        · exact h.returned k hx
      retained := h.retained
      result := by
        intro i call hi hres
        simp only [World.call, Dict.get?_set] at hi
        split at hi
        · cases hi
          cases hres
        · exact h.result i call hi hres }

lemma Sound.finishCall (h : w.Sound) (i : ℕ) : (w.finishCall i).Sound := by
  unfold World.finishCall
  split
  · next call hi =>
    split
    · next hover =>
      set call' : Call := { call with
        result := some (call.children.values.all fun child => decide (child = .returned)) }
      have hchild : ∀ k child, ChildAt { w with calls := w.calls.set i call' } k child →
          w.ChildAt k child := by
        rintro k child ⟨j, call₁, hj, hk⟩
        simp only [Dict.get?_set] at hj
        split at hj
        · cases hj
          exact ⟨i, call, hi, hk⟩
        · exact ⟨j, call₁, hj, hk⟩
      exact
        { fresh := h.fresh
          unused := by
            intro j call₁ hj
            simp only [Dict.get?_set] at hj
            split at hj
            · next he => exact he ▸ h.unused i call hi
            · exact h.unused j call₁ hj
          slot := h.slot
          owner := h.owner
          waiting := fun k t hx => h.waiting k t (hchild k _ hx)
          returned := fun k hx => h.returned k (hchild k _ hx)
          retained := h.retained
          result := by
            intro j call₁ hj hres k child hk
            simp only [Dict.get?_set] at hj
            split at hj
            · cases hj
              rw [Option.some.injEq, List.all_eq_true] at hres
              exact of_decide_eq_true (hres child (Dict.get?_mem_values hk))
            · exact h.result j call₁ hj hres k child hk }
    · exact h
  · exact h

lemma Sound.retain (h : w.Sound) (path : String) (current : Bool) :
    (w.retain path current).Sound where
  fresh t task ht := Nat.lt_succ_of_lt (h.fresh t task ht)
  unused i call hi := Nat.lt_succ_of_lt (h.unused i call hi)
  slot := h.slot
  owner := h.owner
  waiting := h.waiting
  returned := h.returned
  retained := by
    intro k c hc
    simp only [World.retain, Dict.get?_set] at hc
    split at hc
    · cases hc
      exact Or.inl rfl
    · exact h.retained k c hc
  result := h.result

/-- **One step keeps the invariant.** -/
theorem Sound.step (h : w.Sound) (a : Action) : (step w a).Sound := by
  cases a with
  | retain path current => exact h.retain path current
  | release k => exact h.release k
  | authority k current => exact h.modify fun c hc => h.retained k c hc
  | disconnectStale path => exact h.call _ _
  | runTeardowns attempts => exact h.call _ _
  | start i k => exact h.start i k
  | wake i k => exact h.wake i k
  | timeout i k => exact h.timeout i k
  | cancel i k => exact h.cancel i k
  | finish t ok =>
    unfold Connections.step World.finish
    dsimp only
    split
    · next task ht =>
      split
      · next hrun => exact h.setTask ht hrun rfl
      · exact h
    · exact h
  | finishCall i => exact h.finishCall i

/-! ### The children of a call -/

/-- The call `i` was made and has a child for `k`. -/
def Watches (w : World) (i k : ℕ) : Prop :=
  ∃ call child, w.calls.get? i = some call ∧ call.children.get? k = some child

lemma Watches.setChild {i k i' k' : ℕ} (h : w.Watches i k) {call : Call} {child child' : Child}
    (hc : w.child? i' k' = some (call, child)) : (w.setChild i' k' call child').Watches i k := by
  obtain ⟨call₀, child₀, hi, hk⟩ := h
  obtain ⟨hi', hk'⟩ := child?_eq hc
  by_cases he : i' = i
  · subst he
    rw [hi, Option.some.injEq] at hi'
    subst hi'
    refine ⟨{ call₀ with children := call₀.children.set k' child' },
      if k' = k then child' else child₀, by simp [World.setChild], ?_⟩
    rw [Dict.get?_set]
    split
    · rfl
    · exact hk
  · exact ⟨call₀, child₀, by simp [World.setChild, he, hi], hk⟩

lemma Watches.congr {w' : World} (h : w.Watches i k) (hc : w'.calls = w.calls) :
    w'.Watches i k := by
  unfold Watches
  rw [hc]
  exact h

lemma Watches.endChild {i k i' k' : ℕ} (h : w.Watches i k) {call : Call} {child : Child}
    (hc : w.child? i' k' = some (call, child)) (ok : Bool) :
    (w.endChild i' k' call ok).Watches i k := by
  have hs : (w.setChild i' k' call (if ok then .returned else .raised)).Watches i k :=
    h.setChild hc
  unfold World.endChild
  dsimp only
  split
  · exact hs.congr (calls_modify _)
  · exact hs

/-- A call keeps its children to its end and beyond. -/
lemma Watches.step (hs : w.Sound) (h : w.Watches i k) (a : Action) :
    (Connections.step w a).Watches i k := by
  cases a with
  | retain path current => exact h.congr rfl
  | release k' =>
    refine h.congr ?_
    unfold Connections.step World.release
    dsimp only
    split
    · split
      · rfl
      · exact calls_modify _
    · rfl
  | authority k' current => exact h.congr (calls_modify _)
  | disconnectStale path =>
    obtain ⟨call, child, hi, hk⟩ := h
    have hne : w.next ≠ i := by
      have := hs.unused i call hi
      omega
    exact ⟨call, child, by simp [Connections.step, World.call, hne, hi], hk⟩
  | runTeardowns attempts =>
    obtain ⟨call, child, hi, hk⟩ := h
    have hne : w.next ≠ i := by
      have := hs.unused i call hi
      omega
    exact ⟨call, child, by simp [Connections.step, World.call, hne, hi], hk⟩
  | start i' k' =>
    unfold Connections.step World.start
    dsimp only
    split
    · next call hc =>
      set w₁ := if call.disconnects then w.modify k' fun c => { c with retiring := true } else w
        with hw₁
      have hcalls : w₁.calls = w.calls := by
        rw [hw₁]
        split
        · exact calls_modify _
        · rfl
      have hc₁ : w₁.child? i' k' = some (call, .created) := by
        unfold World.child? at hc ⊢
        rw [hcalls]
        exact hc
      have h₁ : w₁.Watches i k := h.congr hcalls
      split
      · exact h₁.setChild hc₁
      · have hset : (w₁.setChild i' k' call (.waiting w₁.next)).Watches i k := h₁.setChild hc₁
        exact hset.congr rfl
    · exact h
  | wake i' k' =>
    unfold Connections.step World.wake
    dsimp only
    split
    · next call t hc =>
      split
      · split
        · exact h
        · have h₁ : World.Watches { w with
              slots := if w.slots.get? k' = some t then w.slots.erase k' else w.slots } i k :=
            h.congr rfl
          exact h₁.endChild hc _
      · exact h
    · exact h
  | timeout i' k' =>
    unfold Connections.step World.timeout
    dsimp only
    split
    · next call t hc =>
      split
      · next task ht =>
        split
        · have h₁ : World.Watches { w with
              tasks := w.tasks.set t { task with cancelling := true } } i k := h.congr rfl
          exact h₁.endChild hc _
        · exact h
      · exact h
    · exact h
  | cancel i' k' =>
    unfold Connections.step World.cancel
    dsimp only
    split
    · next call hc => exact h.setChild hc
    · next call t hc => exact h.endChild hc _
    · exact h
  | finish t ok =>
    refine h.congr ?_
    unfold Connections.step World.finish
    dsimp only
    split
    · split <;> rfl
    · rfl
  | finishCall i' =>
    unfold Connections.step World.finishCall
    dsimp only
    split
    · next call hi' =>
      split
      · obtain ⟨call₀, child₀, hi, hk⟩ := h
        by_cases he : i' = i
        · subst he
          rw [hi, Option.some.injEq] at hi'
          subst hi'
          exact ⟨_, child₀, Dict.get?_set_self _ _ _, hk⟩
        · exact ⟨call₀, child₀, by simp [he, hi], hk⟩
      · exact h
    · exact h

lemma sound_after (h : w.Sound) (acts : List Action) : (after Connections.step w acts).Sound :=
  Throughout.invariant (I := Sound) (P := fun _ _ => True) (fun _ a hs _ => hs.step a) h
    (Throughout.of_forall (fun _ _ => trivial) w acts)

lemma watches_after (hs : w.Sound) (h : w.Watches i k) (acts : List Action) :
    (after Connections.step w acts).Watches i k := by
  have hb : (after Connections.step w acts).Sound ∧ (after Connections.step w acts).Watches i k :=
    Throughout.invariant (I := fun w => w.Sound ∧ w.Watches i k) (P := fun _ _ => True)
      (fun _ a hi _ => ⟨hi.1.step a, hi.2.step hi.1 a⟩) ⟨hs, h⟩
      (Throughout.of_forall (fun _ _ => trivial) w acts)
  exact hb.2

/-- Retained, of this store, and no longer current. -/
def Stale (w : World) (path : String) (k : ℕ) : Prop :=
  ∃ c, w.connections.get? k = some c ∧ c.retained = true ∧ c.path = path ∧ c.current = false

/-- The call has ended without an error. -/
def Returned (w : World) (i : ℕ) : Prop :=
  ∃ call, w.calls.get? i = some call ∧ call.result = some true

lemma Stale.mem {path : String} (h : w.Stale path k) : k ∈ w.stale path := by
  obtain ⟨c, hc, hr, hp, hn⟩ := h
  unfold stale
  rw [List.mem_map]
  refine ⟨(k, c), List.mem_filter.mpr ⟨Dict.mem_entries.mpr hc, ?_⟩, rfl⟩
  simp [hr, hp, hn]

lemma children_get {ks : List ℕ} (h : k ∈ ks) : (children ks).get? k = some .created := by
  unfold children
  have hgen : ∀ (l : List ℕ) (d : Dict ℕ Child), k ∈ l ∨ d.get? k = some .created →
      (l.foldl (fun d k => d.set k .created) d).get? k = some .created := by
    intro l
    induction l with
    | nil =>
      rintro d (hk | hk)
      · cases hk
      · exact hk
    | cons j l ih =>
      intro d hk
      refine ih _ ?_
      rw [Dict.get?_set]
      by_cases hj : j = k
      · exact Or.inr (if_pos hj)
      · rw [if_neg hj]
        rcases hk with hk | hk
        · rcases List.mem_cons.mp hk with rfl | hk
          · exact absurd rfl hj
          · exact Or.inl hk
        · exact Or.inr hk
  exact hgen ks Dict.empty (Or.inl h)

/-- A call has a child for every connection that is stale when it starts. -/
lemma Stale.child {path : String} (h : w.Stale path k) :
    ∃ call, (Connections.step w (.disconnectStale path)).calls.get? w.next = some call ∧
      call.children.get? k = some .created :=
  ⟨_, Dict.get?_set_self _ _ _, children_get h.mem⟩

end World

open World in
/-- **Authority stays retained.** In every run: when a call of `disconnect_stale` has returned
without an error, a close has succeeded of every connection that was stale at its start; a
connection that was not released stays retained until a close of it has succeeded, and every
later call tries it again; and a teardown has one close task in flight at most. -/
theorem retained_authority (acts : List Action) :
    let w := after step empty acts
    (∀ path k, w.Stale path k → ∀ more,
      (after step w (.disconnectStale path :: more)).Returned w.next →
      (after step w (.disconnectStale path :: more)).Closed k) ∧
    (∀ k c, w.connections.get? k = some c → k ∉ w.released → ¬w.Closed k → c.retained = true) ∧
    (∀ path k, w.Stale path k →
      ∃ call, (step w (.disconnectStale path)).calls.get? w.next = some call ∧
        call.children.get? k = some .created) ∧
    ∀ k t t', w.Running t k → w.Running t' k → t = t' := by
  intro w
  have hs : w.Sound := sound_after sound_empty acts
  refine ⟨fun path k hk more hret => ?_, fun k c hc hr hn => ?_, fun path k hk => hk.child,
    fun k t t' ht ht' => ?_⟩
  · rw [after_cons] at hret ⊢
    set w₁ := step w (.disconnectStale path)
    have hs₁ : w₁.Sound := hs.step _
    obtain ⟨call₀, hcall₀, hchild₀⟩ := hk.child
    have hw : (after step w₁ more).Watches w.next k :=
      watches_after hs₁ ⟨call₀, _, hcall₀, hchild₀⟩ more
    have hs₂ : (after step w₁ more).Sound := sound_after hs₁ more
    obtain ⟨call, hi, hres⟩ := hret
    obtain ⟨call', child, hi', hk'⟩ := hw
    rw [hi, Option.some.injEq] at hi'
    subst hi'
    have hchild := hs₂.result _ call hi hres k child hk'
    exact hs₂.returned k ⟨_, call, hi, hchild ▸ hk'⟩
  · rcases hs.retained k c hc with h | h | h
    · exact h
    · exact absurd h hr
    · exact absurd h hn
  · have h := hs.slot t k ht
    rw [hs.slot t' k ht', Option.some.injEq] at h
    exact h.symm

/-- A second caller lists the connection after its close has succeeded, and before the first
caller goes on; its child starts when the first has discarded the connection. -/
def lateStart : List Action :=
  [.retain "credentials.json" true, .authority 0 false, .disconnectStale "credentials.json",
    .start 1 0, .finish 2 true, .disconnectStale "credentials.json", .wake 1 0, .start 3 0]

open World in
/-- **A close is in flight and its connection is not retained.** -/
theorem lateStart_not_retained :
    (after step empty lateStart).released = [] ∧
    (after step empty lateStart).connections.get? 0 =
      some ⟨"credentials.json", false, false, true⟩ ∧
    (after step empty lateStart).Running 4 0 :=
  ⟨rfl, rfl, ⟨0, .running, false⟩, rfl, rfl, rfl⟩

end Vauxr.Connections
