import Mathlib
import Vauxr.Lib.Run
import Vauxr.Lib.Text

/-!
The history of a live conversation (`LiveService` of `realtime/live.py`): closed turns wait in a
list, and flushes under one lock have them recorded by the backend.

A step lasts from one point of suspension to the next. A request is acknowledged when it returns;
the close of the session cancels the flush task, and is where finishing starts.
-/

namespace Vauxr.History

open Lib

inductive Role
  | user | assistant
  deriving DecidableEq

/-- A closed turn; its id is told by the number in it. -/
structure Fragment where
  id : ℕ
  role : Role
  text : Text
  delivered : Bool

/-- Who flushes: the flush task, a delegation, or `finish_transcript`. -/
inductive Kind
  | later | delegation | finish
  deriving DecidableEq

/-- A flush sleeps, waits for the end of the user's turn, for the lock, or for the request with its
batch; or it is over. -/
inductive Phase
  | sleeping
  | waitingUser
  | waiting
  | requesting (batch : List Fragment)
  | over

structure Flusher where
  kind : Kind
  phase : Phase

/-- The fields of `LiveService`, with the flushes there are. `turns` is `transcript_turns`; `closed`
are the fragments of all closed turns, `acked` the batches acknowledged, `failed` whether a request
has failed, and `closing` whether the session closes. -/
structure State where
  turnSequence : ℕ
  turns : Role → Option ℕ
  userTurnDone : Bool
  finishing : Bool
  closing : Bool
  failed : Bool
  fragments : List Fragment
  closed : List Fragment
  acked : List (List Fragment)
  flushers : List Flusher
  flushLock : Option ℕ
  flushTask : Option ℕ

inductive Action
  | openTurn (role : Role)
  | endTurn (role : Role) (text : Text)
  | delegate
  | finish
  | close
  | elapsed (i : ℕ)
  | userDone (i : ℕ)
  | acquire (i : ℕ)
  | acked (i : ℕ)
  | failed (i : ℕ)
  | cancel (i : ℕ)

def batchSize : ℕ := 64

namespace State

def start : State := ⟨0, fun _ => none, true, false, false, false, [], [], [], [], none, none⟩

def openTurn (s : State) (role : Role) : State :=
  { s with
    userTurnDone := s.userTurnDone && role ≠ .user
    turnSequence := s.turnSequence + 1
    turns := Function.update s.turns role (some (s.turnSequence + 1)) }

/-- Whether the flush task is there and not done. -/
def pending (s : State) : Bool :=
  s.flushTask.any fun i => s.flushers[i]?.any fun f =>
    match f.phase with
    | .over => false
    | _ => true

/-- A flush task is made, if there is none that is not done. -/
def schedule (s : State) : State :=
  if s.finishing || s.pending then s
  else
    { s with
      flushers := s.flushers ++ [⟨.later, .sleeping⟩]
      flushTask := some s.flushers.length }

/-- The end of `_end_turn`. -/
def forget (s : State) (role : Role) : State :=
  { s with
    turns := Function.update s.turns role none
    userTurnDone := s.userTurnDone || role = .user }

/-- `_end_turn`, behind that of the base class. -/
def endTurn (s : State) (role : Role) (text : Text) : State :=
  if text = [] then s.forget role
  else
    match s.turns role with
    | none => s
    | some id =>
      let f : Fragment := ⟨id, role, text, false⟩
      ({ s with fragments := s.fragments ++ [f], closed := s.closed ++ [f] }.schedule).forget role

def setPhase (s : State) (i : ℕ) (phase : Phase) : State :=
  { s with flushers := s.flushers.modify i fun f => { f with phase } }

/-- The loop of `flush_transcript` under the lock, up to its request, or to its end. -/
def loop (s : State) (i : ℕ) : State :=
  if s.fragments = [] then { s with flushLock := none }.setPhase i .over
  else s.setPhase i (.requesting (s.fragments.take batchSize))

def step (s : State) : Action → State
  | .openTurn role => s.openTurn role
  | .endTurn role text => s.endTurn role text
  | .delegate => { s with flushers := s.flushers ++ [⟨.delegation, .waitingUser⟩] }
  | .finish =>
    { s with finishing := true, flushers := s.flushers ++ [⟨.finish, .waiting⟩] }
  | .close => { s with closing := true }
  | .elapsed i =>
    match s.flushers[i]? with
    | some ⟨_, .sleeping⟩ => s.setPhase i .waiting
    | _ => s
  | .userDone i =>
    match s.flushers[i]? with
    | some ⟨_, .waitingUser⟩ => if s.userTurnDone then s.setPhase i .waiting else s
    | _ => s
  | .acquire i =>
    match s.flushers[i]?, s.flushLock with
    | some ⟨_, .waiting⟩, none => { s with flushLock := some i }.loop i
    | _, _ => s
  | .acked i =>
    match s.flushers[i]? with
    | some ⟨_, .requesting batch⟩ =>
      { s with fragments := s.fragments.drop batch.length, acked := s.acked ++ [batch] }.loop i
    | _ => s
  | .failed i =>
    match s.flushers[i]? with
    | some ⟨_, .requesting _⟩ => { s with flushLock := none, failed := true }.setPhase i .over
    | _ => s
  | .cancel i =>
    match s.flushers[i]? with
    | some ⟨kind, phase⟩ =>
      if kind = .later ∧ !s.closing then s
      else
        match phase with
        | .requesting _ => { s with flushLock := none }.setPhase i .over
        | _ => s.setPhase i .over
    | none => s

/-! ### The invariant -/

/-- What is acknowledged and what is left are the closed turns; a request holds the lock, and its
batch is at the head of the list. -/
structure Inv (s : State) : Prop where
  kept : s.acked.flatten ++ s.fragments = s.closed
  batch : ∀ i k b, s.flushers[i]? = some ⟨k, .requesting b⟩ →
    b <+: s.fragments ∧ s.flushLock = some i
  task : ∀ i, s.flushTask = some i → ∃ f, s.flushers[i]? = some f ∧ f.kind = .later
  scheduled : s.failed = false → s.finishing = false → s.closing = false → s.fragments ≠ [] →
    s.pending = true

variable {s : State}

lemma inv_start : start.Inv where
  kept := rfl
  batch _ _ _ h := by simp [start] at h
  task _ h := nomatch h
  scheduled _ _ _ h := absurd rfl h

/-- A flush of another index is left alone. -/
lemma setPhase_get (s : State) (i j : ℕ) (phase : Phase) :
    (s.setPhase i phase).flushers[j]? =
      (s.flushers[j]?).map fun f => if i = j then { f with phase } else f := by
  rw [setPhase, List.getElem?_modify]
  rfl

lemma pending_iff : s.pending = true ↔
    ∃ i f, s.flushTask = some i ∧ s.flushers[i]? = some f ∧ f.phase ≠ .over := by
  unfold pending
  rw [Option.any_eq_true]
  constructor
  · rintro ⟨i, htask, hany⟩
    rw [Option.any_eq_true] at hany
    obtain ⟨f, hf, hphase⟩ := hany
    refine ⟨i, f, htask, hf, fun hover => ?_⟩
    rw [hover] at hphase
    cases hphase
  · rintro ⟨i, f, htask, hf, hphase⟩
    refine ⟨i, htask, ?_⟩
    rw [hf, Option.any_some]
    split
    next hover => exact absurd hover hphase
    next => rfl

lemma setPhase_requesting {i j : ℕ} {phase : Phase} {k : Kind} {b : List Fragment}
    (h : (s.setPhase i phase).flushers[j]? = some ⟨k, .requesting b⟩) :
    j ≠ i ∧ s.flushers[j]? = some ⟨k, .requesting b⟩ ∨ j = i ∧ phase = .requesting b := by
  rw [setPhase_get, Option.map_eq_some_iff] at h
  obtain ⟨f, hf, heq⟩ := h
  by_cases hij : i = j
  · rw [if_pos hij] at heq
    cases heq
    exact .inr ⟨hij.symm, rfl⟩
  · rw [if_neg hij] at heq
    exact .inl ⟨fun hji => hij hji.symm, heq ▸ hf⟩

lemma setPhase_kind {i j : ℕ} {phase : Phase}
    (h : ∃ f, s.flushers[j]? = some f ∧ f.kind = .later) :
    ∃ f, (s.setPhase i phase).flushers[j]? = some f ∧ f.kind = .later := by
  obtain ⟨f, hf, hkind⟩ := h
  have hget := s.setPhase_get i j phase
  rw [hf, Option.map_some] at hget
  refine ⟨_, hget, ?_⟩
  split
  · exact hkind
  · exact hkind

lemma setPhase_pending {i : ℕ} {phase : Phase} (h : s.pending = true)
    (hover : phase = .over → s.flushTask ≠ some i) : (s.setPhase i phase).pending = true := by
  obtain ⟨j, f, htask, hf, hphase⟩ := pending_iff.mp h
  have hget := s.setPhase_get i j phase
  rw [hf, Option.map_some] at hget
  refine pending_iff.mpr ⟨j, _, htask, hget, ?_⟩
  split
  next hij => exact fun hp => hover hp (hij ▸ htask)
  next => exact hphase

/-- A flush that makes no request goes on, and may release the lock that it holds. -/
lemma Inv.setPhase (h : s.Inv) {i : ℕ} {phase : Phase} {lock : Option ℕ}
    (hlock : ∀ j, j ≠ i → s.flushLock = some j → lock = some j)
    (hphase : ∀ b, phase ≠ .requesting b)
    (hover : phase = .over → s.flushTask = some i → s.failed = false → s.finishing = false →
      s.closing = false → s.fragments = []) :
    ({ s with flushLock := lock }.setPhase i phase).Inv where
  kept := h.kept
  batch j k b hj := by
    rcases setPhase_requesting hj with ⟨hne, hj⟩ | ⟨-, hp⟩
    · obtain ⟨hpre, hheld⟩ := h.batch j k b hj
      exact ⟨hpre, hlock j hne hheld⟩
    · exact absurd hp (hphase b)
  task j htask := setPhase_kind (h.task j htask)
  scheduled hfailed hfinishing hclosing hne := by
    have hpending : ({ s with flushLock := lock } : State).pending = true :=
      h.scheduled hfailed hfinishing hclosing hne
    exact setPhase_pending hpending fun hp htask =>
      hne (hover hp htask hfailed hfinishing hclosing)

/-- The loop, for a flush that holds the lock alone. -/
lemma loop_inv {i : ℕ} (hkept : s.acked.flatten ++ s.fragments = s.closed)
    (halone : ∀ j k b, s.flushers[j]? = some ⟨k, .requesting b⟩ → j = i)
    (hlock : s.flushLock = some i)
    (htask : ∀ j, s.flushTask = some j → ∃ f, s.flushers[j]? = some f ∧ f.kind = .later)
    (hsched : s.failed = false → s.finishing = false → s.closing = false → s.fragments ≠ [] →
      s.pending = true) : (s.loop i).Inv := by
  have hkind : ∀ phase j, s.flushTask = some j →
      ∃ f, (s.setPhase i phase).flushers[j]? = some f ∧ f.kind = .later :=
    fun phase j hj => setPhase_kind (htask j hj)
  unfold loop
  split
  next hnil =>
    refine ⟨hkept, fun j k b hj => ?_, hkind .over, fun _ _ _ hne => absurd hnil hne⟩
    rcases setPhase_requesting hj with ⟨hne, hj⟩ | ⟨-, hp⟩
    · exact absurd (halone j k b hj) hne
    · cases hp
  next =>
    refine ⟨hkept, fun j k b hj => ?_, hkind _, fun h₁ h₂ h₃ hne => ?_⟩
    · rcases setPhase_requesting hj with ⟨hne, hj⟩ | ⟨hji, hp⟩
      · exact absurd (halone j k b hj) hne
      · cases hp
        exact ⟨List.take_prefix _ _, hji ▸ hlock⟩
    · exact setPhase_pending (hsched h₁ h₂ h₃ hne) fun hp => by cases hp

/-- A flush that is added waits. -/
lemma append_get {fs : List Flusher} {f : Flusher} {j : ℕ} {k : Kind} {b : List Fragment}
    (hf : ∀ b, f.phase ≠ .requesting b) (h : (fs ++ [f])[j]? = some ⟨k, .requesting b⟩) :
    fs[j]? = some ⟨k, .requesting b⟩ := by
  by_cases hj : j < fs.length
  · rw [List.getElem?_append_left hj] at h
    exact h
  · rw [List.getElem?_append_right (by omega)] at h
    have hmem := List.mem_singleton.mp (List.mem_of_getElem? h)
    exact absurd (congrArg Flusher.phase hmem).symm (hf b)

lemma append_later {fs : List Flusher} {i : ℕ} (f : Flusher)
    (h : ∃ g, fs[i]? = some g ∧ g.kind = .later) :
    ∃ g, (fs ++ [f])[i]? = some g ∧ g.kind = .later := by
  obtain ⟨g, hg, hkind⟩ := h
  refine ⟨g, ?_, hkind⟩
  rw [List.getElem?_append_left (List.getElem?_eq_some_iff.mp hg).1]
  exact hg

lemma append_pending {f : Flusher} (h : s.pending = true) :
    ({ s with flushers := s.flushers ++ [f] } : State).pending = true := by
  obtain ⟨i, g, htask, hg, hphase⟩ := pending_iff.mp h
  refine pending_iff.mpr ⟨i, g, htask, ?_, hphase⟩
  rw [List.getElem?_append_left (List.getElem?_eq_some_iff.mp hg).1]
  exact hg

/-- A flush of a delegation begins. -/
lemma Inv.append (h : s.Inv) {f : Flusher} (hf : ∀ b, f.phase ≠ .requesting b) :
    ({ s with flushers := s.flushers ++ [f] } : State).Inv where
  kept := h.kept
  batch j k b hj := h.batch j k b (append_get hf hj)
  task i htask := append_later f (h.task i htask)
  scheduled h₁ h₂ h₃ hne := append_pending (h.scheduled h₁ h₂ h₃ hne)

/-- A turn that closes is listed, and a flush task is there behind it. -/
lemma Inv.schedule (h : s.Inv) (f : Fragment) :
    ({ s with fragments := s.fragments ++ [f], closed := s.closed ++ [f] } : State).schedule.Inv := by
  have hkept : s.acked.flatten ++ (s.fragments ++ [f]) = s.closed ++ [f] := by
    rw [← h.kept, List.append_assoc]
  have hbatch : ∀ i k b, s.flushers[i]? = some ⟨k, .requesting b⟩ →
      b <+: s.fragments ++ [f] ∧ s.flushLock = some i := fun i k b hi =>
    ⟨(h.batch i k b hi).1.trans (List.prefix_append _ _), (h.batch i k b hi).2⟩
  unfold State.schedule
  split
  next hskip =>
    refine ⟨hkept, hbatch, h.task, fun _ hfinishing _ _ => ?_⟩
    rw [Bool.or_eq_true] at hskip
    rcases hskip with hf | hp
    · exact absurd (hf.symm.trans hfinishing) (by decide)
    · exact hp
  next =>
    have hnew : (s.flushers ++ [(⟨.later, .sleeping⟩ : Flusher)])[s.flushers.length]? =
        some ⟨.later, .sleeping⟩ := by
      rw [List.getElem?_append_right le_rfl, Nat.sub_self]
      rfl
    refine ⟨hkept, fun i k b hi => hbatch i k b (append_get (fun _ => by simp) hi),
      fun i hi => ?_, fun _ _ _ _ => ?_⟩
    · cases hi
      exact ⟨_, hnew, rfl⟩
    · exact pending_iff.mpr ⟨_, _, rfl, hnew, by simp⟩

lemma Inv.forget (h : s.Inv) (role : Role) : (s.forget role).Inv :=
  ⟨h.kept, h.batch, h.task, h.scheduled⟩

lemma Inv.endTurn (h : s.Inv) (role : Role) (text : Text) : (s.endTurn role text).Inv := by
  unfold State.endTurn
  split
  · exact h.forget role
  · split
    · exact h
    · exact (h.schedule _).forget role

lemma Inv.step (h : s.Inv) (a : Action) : (s.step a).Inv := by
  cases a with
  | openTurn role => exact ⟨h.kept, h.batch, h.task, h.scheduled⟩
  | endTurn role text => exact h.endTurn role text
  | delegate => exact h.append fun _ => by simp
  | finish =>
    have h' : ({ s with flushers := s.flushers ++ [⟨.finish, .waiting⟩] } : State).Inv :=
      h.append fun _ => by simp
    exact ⟨h'.kept, h'.batch, h'.task, fun _ hf => (nomatch hf)⟩
  | close => exact ⟨h.kept, h.batch, h.task, fun _ _ hc => (nomatch hc)⟩
  | elapsed i =>
    simp only [State.step]
    split
    · exact h.setPhase (fun _ _ hl => hl) (fun _ => by simp) fun hp => by cases hp
    · exact h
  | userDone i =>
    simp only [State.step]
    split
    · split
      · exact h.setPhase (fun _ _ hl => hl) (fun _ => by simp) fun hp => by cases hp
      · exact h
    · exact h
  | acquire i =>
    simp only [State.step]
    split
    next hlock =>
      refine loop_inv h.kept (fun j k b hj => ?_) rfl h.task h.scheduled
      exact absurd (hlock.symm.trans (h.batch j k b hj).2) (by simp)
    next => exact h
  | acked i =>
    simp only [State.step]
    split
    next kind batch hi =>
      obtain ⟨hpre, hlock⟩ := h.batch i kind batch hi
      obtain ⟨rest, hrest⟩ := hpre
      refine loop_inv ?_ (fun j k b hj => ?_) hlock h.task fun h₁ h₂ h₃ hne => ?_
      · have hkept := h.kept
        rw [← hrest] at hkept ⊢
        rw [List.drop_left, List.flatten_append, List.flatten_singleton, List.append_assoc]
        exact hkept
      · exact Option.some.inj ((h.batch j k b hj).2.symm.trans hlock)
      · refine h.scheduled h₁ h₂ h₃ fun hnil => hne ?_
        dsimp only
        rw [hnil, List.drop_nil]
    next => exact h
  | failed i =>
    simp only [State.step]
    split
    next kind batch hi =>
      have hlock := (h.batch i kind batch hi).2
      have hover : ({ s with failed := true } : State).Inv :=
        ⟨h.kept, h.batch, h.task, fun hf => (nomatch hf)⟩
      refine hover.setPhase (fun j hne hj => ?_) (fun _ => by simp) fun _ _ hf => (nomatch hf)
      exact absurd (Option.some.inj (hj.symm.trans hlock)) hne
    next => exact h
  | cancel i =>
    simp only [State.step]
    split
    next kind phase hi =>
      split
      next => exact h
      next hcond =>
        -- the flush task is cancelled by the close of the session only
        have hclosing : s.flushTask = some i → s.closing = false → s.fragments = [] := by
          intro htask hopen
          obtain ⟨f, hf, hkind⟩ := h.task i htask
          cases hi.symm.trans hf
          exact absurd ⟨hkind, by simp [hopen]⟩ hcond
        split
        next batch =>
          have hlock := (h.batch i kind batch hi).2
          refine h.setPhase (fun j hne hj => ?_) (fun _ => by simp)
            fun _ htask _ _ hc => hclosing htask hc
          exact absurd (Option.some.inj (hj.symm.trans hlock)) hne
        next =>
          exact h.setPhase (fun _ _ hl => hl) (fun _ => by simp)
            fun _ htask _ _ hc => hclosing htask hc
    next => exact h

/-- What a step does to the list: it grows at its end, or a batch that is acknowledged leaves it. -/
lemma Inv.step_fragments (h : s.Inv) (a : Action) :
    (∃ new, (s.step a).fragments = s.fragments ++ new ∧ (s.step a).acked = s.acked) ∨
      ∃ batch, s.fragments = batch ++ (s.step a).fragments ∧
        (s.step a).acked = s.acked ++ [batch] := by
  have hloop : ∀ (s : State) i, (s.loop i).fragments = s.fragments ∧ (s.loop i).acked = s.acked := by
    intro s i
    unfold loop
    split
    · exact ⟨rfl, rfl⟩
    · exact ⟨rfl, rfl⟩
  have hsame : ∀ s' : State, s'.fragments = s.fragments → s'.acked = s.acked →
      (∃ new, s'.fragments = s.fragments ++ new ∧ s'.acked = s.acked) ∨
        ∃ batch, s.fragments = batch ++ s'.fragments ∧ s'.acked = s.acked ++ [batch] :=
    fun s' hf ha => .inl ⟨[], by rw [hf, List.append_nil], ha⟩
  cases a with
  | openTurn role => exact hsame _ rfl rfl
  | endTurn role text =>
    simp only [State.step]
    unfold State.endTurn
    split
    · exact hsame _ rfl rfl
    · split
      · exact hsame _ rfl rfl
      next id _ =>
        have hschedule : ∀ s : State, s.schedule.fragments = s.fragments ∧
            s.schedule.acked = s.acked := by
          intro s
          unfold State.schedule
          split
          · exact ⟨rfl, rfl⟩
          · exact ⟨rfl, rfl⟩
        exact .inl ⟨[⟨id, role, text, false⟩], (hschedule _).1, (hschedule _).2⟩
  | delegate => exact hsame _ rfl rfl
  | finish => exact hsame _ rfl rfl
  | close => exact hsame _ rfl rfl
  | elapsed i =>
    simp only [State.step]
    split
    · exact hsame _ rfl rfl
    · exact hsame _ rfl rfl
  | userDone i =>
    simp only [State.step]
    split
    · split
      · exact hsame _ rfl rfl
      · exact hsame _ rfl rfl
    · exact hsame _ rfl rfl
  | acquire i =>
    simp only [State.step]
    split
    · exact hsame _ (hloop _ _).1 (hloop _ _).2
    · exact hsame _ rfl rfl
  | acked i =>
    simp only [State.step]
    split
    next kind batch hi =>
      obtain ⟨rest, hrest⟩ := (h.batch i kind batch hi).1
      refine .inr ⟨batch, ?_, (hloop _ _).2⟩
      rw [(hloop _ _).1]
      dsimp only
      rw [← hrest, List.drop_left]
    next => exact hsame _ rfl rfl
  | failed i =>
    simp only [State.step]
    split
    · exact hsame _ rfl rfl
    · exact hsame _ rfl rfl
  | cancel i =>
    simp only [State.step]
    split
    · split
      · exact hsame _ rfl rfl
      · split
        · exact hsame _ rfl rfl
        · exact hsame _ rfl rfl
    · exact hsame _ rfl rfl

end State

/-- The history after the first `n` actions. -/
abbrev history (acts : ℕ → Action) (n : ℕ) : State := run State.step State.start acts n

/-- What the end of a turn adds to the closed turns: its fragment, if the turn is open and has a
text. -/
def State.fragment (s : State) : Action → List Fragment
  | .endTurn role text =>
    if text = [] then [] else ((s.turns role).map fun id => ⟨id, role, text, false⟩).toList
  | _ => []

lemma State.step_closed (s : State) (a : Action) :
    (s.step a).closed = s.closed ++ s.fragment a := by
  have hloop : ∀ (s : State) i, (s.loop i).closed = s.closed := by
    intro s i
    unfold loop
    split <;> rfl
  cases a with
  | endTurn role text =>
    simp only [State.step, State.fragment]
    unfold State.endTurn
    split
    · exact (List.append_nil _).symm
    · cases s.turns role with
      | none => exact (List.append_nil _).symm
      | some id =>
        have hschedule : ∀ s : State, s.schedule.closed = s.closed := by
          intro s
          unfold State.schedule
          split <;> rfl
        exact hschedule _
  | openTurn role => exact (List.append_nil _).symm
  | delegate => exact (List.append_nil _).symm
  | finish => exact (List.append_nil _).symm
  | close => exact (List.append_nil _).symm
  | acquire i =>
    refine Eq.trans ?_ (List.append_nil _).symm
    simp only [State.step]
    split
    · exact hloop _ _
    · rfl
  | acked i =>
    refine Eq.trans ?_ (List.append_nil _).symm
    simp only [State.step]
    split
    · exact hloop _ _
    · rfl
  | elapsed i | userDone i | failed i | cancel i =>
    refine Eq.trans ?_ (List.append_nil _).symm
    simp only [State.step]
    repeat' split
    all_goals rfl

/-- The fragments of the turns that close in the first `n` actions, in the order of their ends. -/
def ended (acts : ℕ → Action) : ℕ → List Fragment
  | 0 => []
  | n + 1 => ended acts n ++ (history acts n).fragment (acts n)

lemma closed_history (acts : ℕ → Action) (n : ℕ) : (history acts n).closed = ended acts n := by
  induction n with
  | zero => rfl
  | succ n ih => rw [ended, ← ih, ← State.step_closed]; rfl

/-- **The history is recorded without loss.** Whatever the order of the turns, the flushes and their
requests: the batches acknowledged are the turns that closed first, in their order, and the others
are in the list; a step that takes fragments from the list takes a batch that it has acknowledged;
and until a request fails, the session closes or finishing starts, a list that is not empty has a
flush task that is not done. -/
theorem recorded (acts : ℕ → Action) (n : ℕ) :
    (history acts n).acked.flatten <+: ended acts n ∧
    (history acts n).acked.flatten ++ (history acts n).fragments = ended acts n ∧
    ((∃ new, (history acts (n + 1)).fragments = (history acts n).fragments ++ new ∧
        (history acts (n + 1)).acked = (history acts n).acked) ∨
      ∃ batch, (history acts n).fragments = batch ++ (history acts (n + 1)).fragments ∧
        (history acts (n + 1)).acked = (history acts n).acked ++ [batch]) ∧
    ((history acts n).failed = false → (history acts n).finishing = false →
      (history acts n).closing = false → (history acts n).fragments ≠ [] →
        ∃ i f, (history acts n).flushTask = some i ∧ (history acts n).flushers[i]? = some f ∧
          f.kind = .later ∧ f.phase ≠ .over) := by
  have h : (history acts n).Inv :=
    run_invariant (I := fun _ => State.Inv) State.inv_start (fun _ _ h => h.step _) n
  rw [← closed_history]
  refine ⟨⟨_, h.kept⟩, h.kept, h.step_fragments (acts n), fun h₁ h₂ h₃ hne => ?_⟩
  obtain ⟨i, f, htask, hf, hphase⟩ := State.pending_iff.mp (h.scheduled h₁ h₂ h₃ hne)
  obtain ⟨f', hf', hkind⟩ := h.task i htask
  cases hf.symm.trans hf'
  exact ⟨i, f, htask, hf, hkind, hphase⟩

/-- A session that closes cancels the flush task before finishing starts. -/
theorem close_cancels :
    ¬ ∀ acts n, (history acts n).failed = false → (history acts n).finishing = false →
      (history acts n).fragments ≠ [] →
        ∃ i f, (history acts n).flushTask = some i ∧ (history acts n).flushers[i]? = some f ∧
          f.phase ≠ .over := by
  intro h
  obtain ⟨i, f, htask, hf, hphase⟩ := h (fun n => if n = 0 then .openTurn .user
    else if n = 1 then .endTurn .user (text "hi")
    else if n = 2 then .close else .cancel 0) 4 rfl rfl (List.cons_ne_nil _ _)
  cases htask
  cases hf
  exact hphase rfl

end Vauxr.History
