import Mathlib
import Vauxr.Lib.Run

/-!
Acknowledgement of playback (`AudioConsumption` of `realtime/transport.py`): the futures of the
writes, their callbacks, and the calls of `drained` that wait for them.

A future that is resolved puts its callbacks in the queue of the event loop, in the order in which
they were added; a step runs the first of the queue, or what else the loop may run.
-/

namespace Vauxr.AudioConsumption

open Lib

/-- How a future is resolved: with `True`, with another value, with an exception or by being
cancelled. -/
inductive Outcome
  | consumed | refused | raised | cancelled
  deriving DecidableEq

/-- What became of a call of `write_audio_frame` on its way to the future: the client may not send,
`add_audio_bytes` raises, the frame is empty, or its future is the one of the index. -/
inductive Write
  | refused
  | raised
  | empty
  | future (i : ℕ)
  deriving DecidableEq

/-- A call of `drained`: it waits for a future with the rest of its snapshot behind, or has
returned, or raised. -/
inductive Drain
  | waiting (i : ℕ) (rest : List ℕ)
  | returned (drained : Bool)
  | raised
  deriving DecidableEq

/-- The handles of the loop's queue: the callback `_consumed` of a future, the callback of the
shield that a call of `drained` waits for, and the call that goes on. -/
inductive Handle
  | consumed (i : ℕ)
  | shield (k : ℕ)
  | wake (k : ℕ)
  deriving DecidableEq

/-- `pending` and `failed` are the fields of the class. `reported` lists the futures whose callback
has run, and each call of `drained` has the number of writes that were started before it. -/
structure State where
  futures : List (Option Outcome)
  pending : List ℕ
  failed : Bool
  ready : List Handle
  writes : List Write
  drains : List (ℕ × Drain)
  reported : List ℕ

/-- A snapshot of the pending futures may come in any order. The task that awaits a write may be
cancelled, which the future does not see. -/
inductive Action
  | writeAudioFrame (canSend : Bool) (empty : Bool) (raises : Bool)
  | cancelWriter
  | resolve (i : ℕ) (outcome : Outcome)
  | drained (snapshot : List ℕ)
  | cancel (k : ℕ)
  | run

namespace State

def start : State := ⟨[], [], false, [], [], [], []⟩

/-- The outcome of a future, if it is done. -/
def outcome (s : State) (i : ℕ) : Option Outcome := (s.futures[i]?).join

def writeAudioFrame (s : State) (canSend empty raises : Bool) : State :=
  if !canSend then { s with failed := true, writes := s.writes ++ [.refused] }
  else if empty then { s with writes := s.writes ++ [.empty] }
  else if raises then { s with failed := true, writes := s.writes ++ [.raised] }
  else
    { s with
      futures := s.futures ++ [none]
      pending := s.pending ++ [s.futures.length]
      writes := s.writes ++ [.future s.futures.length] }

/-- `_consumed` -/
def consumed (s : State) (i : ℕ) : State :=
  if s.outcome i = some .consumed then
    { s with pending := s.pending.erase i, reported := s.reported ++ [i] }
  else { s with failed := true, reported := s.reported ++ [i] }

/-- The loop of `drained` up to a future that is not done, or to its end. -/
def proceed (s : State) : List ℕ → Drain
  | [] => .returned !s.failed
  | i :: rest =>
    match s.outcome i with
    | none => .waiting i rest
    | some .consumed => s.proceed rest
    | some .refused => .returned false
    | some .cancelled => .returned false
    | some .raised => .raised

/-- A call of `drained` goes on behind the future that it waited for. -/
def wake (s : State) : Drain → Drain
  | .waiting i rest =>
    match s.outcome i with
    | none => .waiting i rest
    | some .consumed => s.proceed rest
    | some .refused => .returned false
    | some .cancelled => .raised
    | some .raised => .raised
  | d => d

def isWaiting (i : ℕ) : ℕ × Drain → Bool
  | (_, .waiting j _) => i = j
  | _ => false

/-- The calls of `drained` that wait for a future. -/
def waiters (s : State) (i : ℕ) : List ℕ :=
  (List.range s.drains.length).filter fun k => s.drains[k]?.any (isWaiting i)

def resolve (s : State) (i : ℕ) (outcome : Outcome) : State :=
  if s.futures[i]? = some none then
    { s with
      futures := s.futures.set i (some outcome)
      ready := s.ready ++ .consumed i :: (s.waiters i).map .shield }
  else s

def modifyDrain (s : State) (k : ℕ) (f : Drain → Drain) : State :=
  { s with drains := s.drains.modify k fun d => (d.1, f d.2) }

def drained (s : State) (snapshot : List ℕ) : State :=
  if snapshot.Perm s.pending then
    { s with drains := s.drains ++ [(s.writes.length, s.proceed snapshot)] }
  else s

/-- The task of a call of `drained` is cancelled while it waits. -/
def cancelled : Drain → Drain
  | .waiting _ _ => .raised
  | d => d

def handle (s : State) : Handle → State
  | .consumed i => s.consumed i
  | .shield k => { s with ready := s.ready ++ [.wake k] }
  | .wake k => s.modifyDrain k s.wake

def step (s : State) : Action → State
  | .writeAudioFrame canSend empty raises => s.writeAudioFrame canSend empty raises
  | .cancelWriter => s
  | .resolve i outcome => s.resolve i outcome
  | .drained snapshot => s.drained snapshot
  | .cancel k => s.modifyDrain k cancelled
  | .run =>
    match s.ready with
    | [] => s
    | h :: rest => { s with ready := rest }.handle h

/-- The call of `drained` of the index has returned true. -/
def Drained (s : State) (k : ℕ) : Prop := ∃ before, s.drains[k]? = some (before, .returned true)

/-! ### The invariant -/

variable {s : State}

/-- A write that was consumed, or had nothing to be consumed. -/
def Played (s : State) (w : Write) : Prop :=
  w = .empty ∨ ∃ i, w = .future i ∧ s.outcome i = some .consumed

/-- What a call of `drained` knows of the writes before it. -/
def Sound (s : State) : ℕ × Drain → Prop
  | (before, .waiting i rest) => before ≤ s.writes.length ∧ ∀ w ∈ s.writes.take before,
      s.Played w ∨ s.failed = true ∨ ∃ j ∈ i :: rest, w = .future j
  | (before, .returned true) => before ≤ s.writes.length ∧ ∀ w ∈ s.writes.take before, s.Played w
  | _ => True

structure Inv (s : State) : Prop where
  /-- A write that has no future left the flag behind. -/
  flagged : ∀ w ∈ s.writes, w = .refused ∨ w = .raised → s.failed = true
  /-- A future is kept until it is consumed. -/
  kept : ∀ i, .future i ∈ s.writes → i ∈ s.pending ∨ s.outcome i = some .consumed
  reported : ∀ i ∈ s.reported, s.outcome i = some .consumed ∨ s.failed = true
  /-- A future that is done has reported, or its callback waits in the queue. -/
  queued : ∀ i, (s.outcome i).isSome → i ∈ s.reported ∨ .consumed i ∈ s.ready
  /-- The callback of a future runs behind its end. -/
  done : ∀ i, .consumed i ∈ s.ready → (s.outcome i).isSome
  sound : ∀ d ∈ s.drains, s.Sound d

lemma inv_start : start.Inv where
  flagged _ h := nomatch h
  kept _ h := nomatch h
  reported _ h := nomatch h
  queued _ h := nomatch h
  done _ h := nomatch h
  sound _ h := nomatch h

/-- What never goes back. -/
structure Grows (s s' : State) : Prop where
  outcome : ∀ i o, s.outcome i = some o → s'.outcome i = some o
  failed : s.failed = true → s'.failed = true
  writes : s.writes <+: s'.writes

lemma Sound.grows {s' : State} {d : ℕ × Drain} (h : s.Sound d) (hg : s.Grows s') : s'.Sound d := by
  have htake : ∀ before, before ≤ s.writes.length →
      s'.writes.take before = s.writes.take before := by
    intro before hle
    obtain ⟨more, hmore⟩ := hg.writes
    rw [← hmore, List.take_append_of_le_length hle]
  have hplayed : ∀ w, s.Played w → s'.Played w := by
    rintro w (hw | ⟨i, hw, ho⟩)
    · exact .inl hw
    · exact .inr ⟨i, hw, hg.outcome _ _ ho⟩
  obtain ⟨before, d⟩ := d
  match d with
  | .waiting i rest =>
    obtain ⟨hle, hall⟩ := h
    refine ⟨hle.trans hg.writes.length_le, fun w hw => ?_⟩
    rw [htake before hle] at hw
    rcases hall w hw with hp | hf | hj
    · exact .inl (hplayed w hp)
    · exact .inr (.inl (hg.failed hf))
    · exact .inr (.inr hj)
  | .returned true =>
    obtain ⟨hle, hall⟩ := h
    refine ⟨hle.trans hg.writes.length_le, fun w hw => ?_⟩
    rw [htake before hle] at hw
    exact hplayed w (hall w hw)
  | .returned false => exact trivial
  | .raised => exact trivial

/-- The loop of `drained` knows of a write what it knew, or has seen it consumed. -/
lemma proceed_sound {before : ℕ} (hle : before ≤ s.writes.length) {l : List ℕ}
    (h : ∀ w ∈ s.writes.take before, s.Played w ∨ s.failed = true ∨ ∃ j ∈ l, w = .future j) :
    s.Sound (before, s.proceed l) := by
  induction l with
  | nil =>
    simp only [proceed]
    cases hf : s.failed with
    | true => exact trivial
    | false =>
      refine ⟨hle, fun w hw => ?_⟩
      rcases h w hw with hp | hfailed | ⟨j, hj, -⟩
      · exact hp
      · exact absurd (hf.symm.trans hfailed) (by decide)
      · cases hj
  | cons i rest ih =>
    simp only [proceed]
    split
    next => exact ⟨hle, h⟩
    next ho =>
      refine ih fun w hw => ?_
      rcases h w hw with hp | hfailed | ⟨j, hj, hw'⟩
      · exact .inl hp
      · exact .inr (.inl hfailed)
      · rcases List.mem_cons.mp hj with rfl | hj
        · exact .inl (.inr ⟨j, hw', ho⟩)
        · exact .inr (.inr ⟨j, hj, hw'⟩)
    next => exact trivial
    next => exact trivial
    next => exact trivial

lemma wake_sound {before : ℕ} {d : Drain} (h : s.Sound (before, d)) :
    s.Sound (before, s.wake d) := by
  match d with
  | .waiting i rest =>
    simp only [wake]
    split
    next => exact h
    next ho =>
      refine proceed_sound h.1 fun w hw => ?_
      rcases h.2 w hw with hp | hfailed | ⟨j, hj, hw'⟩
      · exact .inl hp
      · exact .inr (.inl hfailed)
      · rcases List.mem_cons.mp hj with rfl | hj
        · exact .inl (.inr ⟨j, hw', ho⟩)
        · exact .inr (.inr ⟨j, hj, hw'⟩)
    next => exact trivial
    next => exact trivial
    next => exact trivial
  | .returned b => exact h
  | .raised => exact h

/-- A call returns true only while the flag is down. -/
lemma proceed_true {l : List ℕ} (h : s.proceed l = .returned true) : s.failed = false := by
  induction l with
  | nil =>
    simp only [proceed] at h
    cases hf : s.failed with
    | true =>
      rw [hf] at h
      cases h
    | false => rfl
  | cons i rest ih =>
    simp only [proceed] at h
    split at h
    · cases h
    · exact ih h
    · cases h
    · cases h
    · cases h

lemma wake_true {d : Drain} (hd : d ≠ .returned true) (h : s.wake d = .returned true) :
    s.failed = false := by
  match d with
  | .waiting i rest =>
    simp only [wake] at h
    split at h
    · cases h
    · exact proceed_true h
    · cases h
    · cases h
    · cases h
  | .returned b => exact absurd h hd
  | .raised => cases h

/-! ### The steps -/

lemma mem_modify {k : ℕ} {f : Drain → Drain} {d : ℕ × Drain}
    (h : d ∈ (s.modifyDrain k f).drains) : ∃ d' ∈ s.drains, d = d' ∨ d = (d'.1, f d'.2) := by
  obtain ⟨n, hn⟩ := List.mem_iff_getElem?.mp h
  rw [modifyDrain, List.getElem?_modify] at hn
  cases hget : s.drains[n]? with
  | none =>
    rw [hget] at hn
    cases hn
  | some d' =>
    rw [hget, Option.map_eq_map, Option.map_some] at hn
    refine ⟨d', List.mem_of_getElem? hget, ?_⟩
    by_cases hk : k = n
    · rw [if_pos hk] at hn
      exact .inr (Option.some.inj hn).symm
    · rw [if_neg hk] at hn
      exact .inl (Option.some.inj hn).symm

lemma Inv.modifyDrain (h : s.Inv) {k : ℕ} {f : Drain → Drain}
    (hf : ∀ before d, s.Sound (before, d) → s.Sound (before, f d)) : (s.modifyDrain k f).Inv where
  flagged := h.flagged
  kept := h.kept
  reported := h.reported
  queued := h.queued
  done := h.done
  sound d hd := by
    obtain ⟨d', hd', rfl | rfl⟩ := mem_modify hd
    · exact h.sound d hd'
    · exact hf _ _ (h.sound d' hd')

lemma Inv.consumed (h : s.Inv) {i : ℕ} {rest : List Handle} (hready : s.ready = .consumed i :: rest) :
    ({ s with ready := rest }.consumed i).Inv := by
  have hqueued : ∀ j, (s.outcome j).isSome → j ∈ s.reported ++ [i] ∨ .consumed j ∈ rest := by
    intro j hj
    rcases h.queued j hj with hr | hq
    · exact .inl (List.mem_append_left _ hr)
    · rw [hready] at hq
      rcases List.mem_cons.mp hq with he | hq
      · cases he
        exact .inl (List.mem_append_right _ (List.mem_singleton.mpr rfl))
      · exact .inr hq
  have hdone : ∀ j, .consumed j ∈ rest → (s.outcome j).isSome := fun j hj =>
    h.done j (hready ▸ List.mem_cons_of_mem _ hj)
  unfold State.consumed
  split
  next ho =>
    refine ⟨h.flagged, fun j hj => ?_, fun j hj => ?_, hqueued, hdone,
      fun d hd => (h.sound d hd).grows ⟨fun _ _ ho => ho, id, List.prefix_rfl⟩⟩
    · rcases h.kept j hj with hp | hc
      · by_cases hji : j = i
        · exact .inr (hji ▸ ho)
        · exact .inl ((List.mem_erase_of_ne hji).mpr hp)
      · exact .inr hc
    · rcases List.mem_append.mp hj with hj | hj
      · exact h.reported j hj
      · rw [List.mem_singleton] at hj
        exact .inl (hj ▸ ho)
  next =>
    exact ⟨fun _ _ _ => rfl, h.kept, fun _ _ => .inr rfl, hqueued, hdone,
      fun d hd => (h.sound d hd).grows ⟨fun _ _ ho => ho, fun _ => rfl, List.prefix_rfl⟩⟩

/-- A write that has no future. -/
lemma Inv.noFuture (h : s.Inv) {w : Write} {failed : Bool} (hw : ∀ i, w ≠ .future i)
    (hfailed : s.failed = true → failed = true)
    (hflag : w = .refused ∨ w = .raised → failed = true) :
    ({ s with failed, writes := s.writes ++ [w] } : State).Inv where
  flagged w' hw' hno := by
    rcases List.mem_append.mp hw' with hw' | hw'
    · exact hfailed (h.flagged w' hw' hno)
    · rw [List.mem_singleton] at hw'
      exact hflag (hw' ▸ hno)
  kept i hi := by
    rcases List.mem_append.mp hi with hi | hi
    · exact h.kept i hi
    · rw [List.mem_singleton] at hi
      exact absurd hi.symm (hw i)
  reported i hi := (h.reported i hi).imp id hfailed
  queued := h.queued
  done := h.done
  sound d hd := (h.sound d hd).grows ⟨fun _ _ ho => ho, hfailed, List.prefix_append _ _⟩

/-- A future that is made is not done. -/
lemma outcome_append (s : State) (i : ℕ) :
    ((s.futures ++ [none])[i]?).join = s.outcome i := by
  unfold outcome
  by_cases hi : i < s.futures.length
  · rw [List.getElem?_append_left hi]
  · have hnone : s.futures[i]? = none := List.getElem?_eq_none (by omega)
    rw [List.getElem?_append_right (by omega), hnone]
    cases hk : i - s.futures.length with
    | zero => rfl
    | succ n => rfl

lemma Inv.writeAudioFrame (h : s.Inv) (canSend empty raises : Bool) :
    (s.writeAudioFrame canSend empty raises).Inv := by
  unfold State.writeAudioFrame
  split
  · exact h.noFuture (fun _ => by simp) (fun _ => rfl) fun _ => rfl
  · split
    · exact h.noFuture (fun _ => by simp) id fun hno => by simp at hno
    · split
      · exact h.noFuture (fun _ => by simp) (fun _ => rfl) fun _ => rfl
      · have hout := s.outcome_append
        refine ⟨fun w hw hno => ?_, fun i hi => ?_, fun i hi => ?_, fun i hi => ?_,
          fun i hi => ?_, fun d hd => ?_⟩
        · rcases List.mem_append.mp hw with hw | hw
          · exact h.flagged w hw hno
          · rw [List.mem_singleton] at hw
            subst hw
            simp at hno
        · rcases List.mem_append.mp hi with hi | hi
          · rcases h.kept i hi with hp | hc
            · exact .inl (List.mem_append_left _ hp)
            · exact .inr ((hout i).trans hc)
          · rw [List.mem_singleton] at hi
            cases hi
            exact .inl (List.mem_append_right _ (List.mem_singleton.mpr rfl))
        · exact (h.reported i hi).imp (fun hc => (hout i).trans hc) id
        · refine h.queued i ?_
          rw [← hout i]
          exact hi
        · have hdone := h.done i hi
          rw [← hout i] at hdone
          exact hdone
        · exact (h.sound d hd).grows ⟨fun i _ ho => (hout i).trans ho, id, List.prefix_append _ _⟩

lemma Inv.resolve (h : s.Inv) (i : ℕ) (o : Outcome) : (s.resolve i o).Inv := by
  unfold State.resolve
  split
  next hi =>
    have hlt : i < s.futures.length := (List.getElem?_eq_some_iff.mp hi).1
    have hself : ((s.futures.set i (some o))[i]?).join = some o := by
      rw [List.getElem?_set_self hlt]
      rfl
    have hother : ∀ j, j ≠ i → ((s.futures.set i (some o))[j]?).join = s.outcome j := by
      intro j hj
      rw [List.getElem?_set_ne hj.symm]
      rfl
    have hpending : s.outcome i = none := by
      rw [outcome, hi]
      rfl
    have hgrows : ∀ j o', s.outcome j = some o' →
        ((s.futures.set i (some o))[j]?).join = some o' := by
      intro j o' hj
      have hne : j ≠ i := by
        rintro rfl
        rw [hpending] at hj
        cases hj
      exact (hother j hne).trans hj
    refine ⟨h.flagged, fun j hj => (h.kept j hj).imp id (hgrows j _),
      fun j hj => (h.reported j hj).imp (hgrows j _) id, fun j hj => ?_, fun j hj => ?_,
      fun d hd => (h.sound d hd).grows ⟨hgrows, id, List.prefix_rfl⟩⟩
    · by_cases hji : j = i
      · subst hji
        exact .inr (List.mem_append_right _ List.mem_cons_self)
      · have hdone : (s.outcome j).isSome := by
          rw [← hother j hji]
          exact hj
        exact (h.queued j hdone).imp id (List.mem_append_left _)
    · by_cases hji : j = i
      · subst hji
        exact Option.isSome_iff_exists.mpr ⟨o, hself⟩
      · have hold : Handle.consumed j ∈ s.ready := by
          rcases List.mem_append.mp hj with hj | hj
          · exact hj
          · rcases List.mem_cons.mp hj with he | hj
            · cases he
              exact absurd rfl hji
            · obtain ⟨k, -, hk⟩ := List.mem_map.mp hj
              cases hk
        have hdone := h.done j hold
        rw [← hother j hji] at hdone
        exact hdone
  next => exact h

lemma Inv.drained (h : s.Inv) (snapshot : List ℕ) : (s.drained snapshot).Inv := by
  unfold State.drained
  split
  next hperm =>
    refine ⟨h.flagged, h.kept, h.reported, h.queued, h.done, fun d hd => ?_⟩
    rcases List.mem_append.mp hd with hd | hd
    · exact h.sound d hd
    · rw [List.mem_singleton] at hd
      subst hd
      refine proceed_sound (s := s) le_rfl fun w hw => ?_
      rw [List.take_length] at hw
      match w with
      | .refused => exact .inr (.inl (h.flagged _ hw (.inl rfl)))
      | .raised => exact .inr (.inl (h.flagged _ hw (.inr rfl)))
      | .empty => exact .inl (.inl rfl)
      | .future i =>
        rcases h.kept i hw with hp | hc
        · exact .inr (.inr ⟨i, hperm.mem_iff.mpr hp, rfl⟩)
        · exact .inl (.inr ⟨i, rfl, hc⟩)
  next => exact h

lemma cancelled_sound {before : ℕ} {d : Drain} (h : s.Sound (before, d)) :
    s.Sound (before, cancelled d) := by
  match d with
  | .waiting i rest => exact trivial
  | .returned b => exact h
  | .raised => exact h

lemma Inv.step (h : s.Inv) (a : Action) : (s.step a).Inv := by
  cases a with
  | writeAudioFrame canSend empty raises => exact h.writeAudioFrame canSend empty raises
  | cancelWriter => exact h
  | resolve i outcome => exact h.resolve i outcome
  | drained snapshot => exact h.drained snapshot
  | cancel k => exact h.modifyDrain fun _ _ hd => cancelled_sound hd
  | run =>
    simp only [State.step]
    split
    next => exact h
    next handle rest hready =>
      -- a handle that is no report leaves those of the queue
      have hpop : (∀ i, handle ≠ .consumed i) → ({ s with ready := rest } : State).Inv := by
        intro hno
        refine ⟨h.flagged, h.kept, h.reported, fun i hi => ?_, fun i hi => ?_, h.sound⟩
        · refine (h.queued i hi).imp id fun hq => ?_
          rw [hready] at hq
          rcases List.mem_cons.mp hq with he | hq
          · exact absurd he.symm (hno i)
          · exact hq
        · exact h.done i (hready ▸ List.mem_cons_of_mem _ hi)
      cases handle with
      | consumed i => exact h.consumed hready
      | shield k =>
        have h' := hpop fun i => by simp
        refine ⟨h'.flagged, h'.kept, h'.reported, fun i hi => ?_, fun i hi => ?_, h'.sound⟩
        · exact (h'.queued i hi).imp id (List.mem_append_left _)
        · rcases List.mem_append.mp hi with hi | hi
          · exact h'.done i hi
          · rw [List.mem_singleton] at hi
            cases hi
      | wake k => exact (hpop fun i => by simp).modifyDrain fun _ _ hd => wake_sound hd

/-- A call that is changed to have returned true had done so, or is made to. -/
lemma modifyDrain_true {k n : ℕ} {f : Drain → Drain} (hnot : ¬ s.Drained n)
    (h : (s.modifyDrain k f).Drained n) :
    ∃ d : Drain, d ≠ .returned true ∧ f d = .returned true := by
  obtain ⟨before, hget⟩ := h
  rw [modifyDrain, List.getElem?_modify] at hget
  cases hd : s.drains[n]? with
  | none =>
    rw [hd] at hget
    cases hget
  | some d =>
    obtain ⟨b, d⟩ := d
    rw [hd, Option.map_eq_map, Option.map_some] at hget
    dsimp only at hget
    have hne : d ≠ .returned true := by
      rintro rfl
      exact hnot ⟨b, hd⟩
    by_cases hk : k = n
    · rw [if_pos hk] at hget
      exact ⟨d, hne, (Prod.mk.inj (Option.some.inj hget)).2⟩
    · rw [if_neg hk] at hget
      exact absurd (Prod.mk.inj (Option.some.inj hget)).2 hne

/-- The flag is down at the step with which a call returns true. -/
lemma step_drained {a : Action} {k : ℕ} (hnot : ¬ s.Drained k) (h : (s.step a).Drained k) :
    s.failed = false := by
  cases a with
  | writeAudioFrame canSend empty raises =>
    refine absurd ?_ hnot
    simp only [step] at h
    unfold writeAudioFrame at h
    split at h
    · exact h
    · split at h
      · exact h
      · split at h
        · exact h
        · exact h
  | cancelWriter => exact absurd h hnot
  | resolve i outcome =>
    refine absurd ?_ hnot
    simp only [step] at h
    unfold resolve at h
    split at h
    · exact h
    · exact h
  | drained snapshot =>
    simp only [step] at h
    unfold drained at h
    split at h
    next =>
      obtain ⟨before, hget⟩ := h
      dsimp only at hget
      by_cases hk : k < s.drains.length
      · rw [List.getElem?_append_left hk] at hget
        exact absurd ⟨before, hget⟩ hnot
      · rw [List.getElem?_append_right (by omega)] at hget
        have hmem := List.mem_of_getElem? hget
        rw [List.mem_singleton] at hmem
        exact proceed_true (Prod.mk.inj hmem).2.symm
    next => exact absurd h hnot
  | cancel j =>
    obtain ⟨d, hne, hd⟩ := modifyDrain_true hnot h
    match d with
    | .waiting i rest => cases hd
    | .returned b => exact absurd hd hne
    | .raised => cases hd
  | run =>
    simp only [step] at h
    split at h
    next => exact absurd h hnot
    next handle rest hready =>
      cases handle with
      | consumed i =>
        refine absurd ?_ hnot
        simp only [State.handle] at h
        unfold State.consumed at h
        split at h
        · exact h
        · exact h
      | shield j => exact absurd h hnot
      | wake j =>
        have hnot' : ¬ ({ s with ready := rest } : State).Drained k := hnot
        obtain ⟨d, hne, hd⟩ := modifyDrain_true hnot' h
        exact wake_true (s := { s with ready := rest }) hne hd

end State

/-! ### Runs -/

section Runs

variable (acts : ℕ → Action)

/-- The state after the first `n` actions. -/
abbrev consumption (n : ℕ) : State := run State.step State.start acts n

lemma inv_consumption (n : ℕ) : (consumption acts n).Inv :=
  run_invariant (I := fun _ => State.Inv) State.inv_start (fun _ _ h => h.step _) n

/-- **A call of `drained` that returns true is right.** Every write with audio that was started
before it was consumed; and when it returns, no write has been refused or has raised, and no
callback has reported anything but consumption. A future that is done without a report has its
callback in the queue of the loop. -/
theorem drained_sound (n k : ℕ) :
    (∀ before, (consumption acts n).drains[k]? = some (before, .returned true) →
      ∀ w ∈ (consumption acts n).writes.take before,
        w = .empty ∨ ∃ i, w = .future i ∧ (consumption acts n).outcome i = some .consumed) ∧
    (¬ (consumption acts n).Drained k → (consumption acts (n + 1)).Drained k →
      (∀ w ∈ (consumption acts n).writes, w ≠ .refused ∧ w ≠ .raised) ∧
        ∀ i ∈ (consumption acts n).reported, (consumption acts n).outcome i = some .consumed) ∧
    ∀ i, ((consumption acts n).outcome i).isSome →
      i ∈ (consumption acts n).reported ∨ .consumed i ∈ (consumption acts n).ready := by
  have h := inv_consumption acts n
  refine ⟨fun before hd => (h.sound _ (List.mem_of_getElem? hd)).2, fun hnot hd => ?_, h.queued⟩
  have hflag : (consumption acts n).failed = false := State.step_drained hnot hd
  have hdown : ¬ (consumption acts n).failed = true := by simp [hflag]
  refine ⟨fun w hw => ⟨?_, ?_⟩, fun i hi => (h.reported i hi).resolve_right hdown⟩
  · rintro rfl
    exact hdown (h.flagged _ hw (.inl rfl))
  · rintro rfl
    exact hdown (h.flagged _ hw (.inr rfl))

end Runs

/-- A call waits for one write; behind it another is started. The first is consumed, and the call is
about to be woken when the second is refused: its callback runs behind the call, which returns
true. -/
def late : List Action :=
  [.writeAudioFrame true false false, .drained [0], .writeAudioFrame true false false,
    .resolve 0 .consumed, .run, .run, .resolve 1 .refused, .run]

theorem failure_unreported :
    ¬ ∀ acts n k, ¬ (consumption acts n).Drained k → (consumption acts (n + 1)).Drained k →
      ∀ i outcome, (consumption acts n).outcome i = some outcome → outcome = .consumed := by
  intro h
  have hbefore : (consumption (fun n => late.getD n .run) 7).drains[0]? =
      some (1, .waiting 0 []) := by decide
  have hrun := h (fun n => late.getD n .run) 7 0
    (by
      rintro ⟨before, hd⟩
      rw [hbefore] at hd
      cases hd)
    ⟨1, by decide⟩ 1 .refused (by decide)
  cases hrun

end Vauxr.AudioConsumption
