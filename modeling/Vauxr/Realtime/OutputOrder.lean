import Mathlib
import Vauxr.Lib.Outlet
import Vauxr.Lib.Run
import Vauxr.Realtime.OutputBuffer

/-!
The order of what leaves the output jitter buffer.

The audio that is still to leave stands in a chain: first what the task with the lock pushes, then
what is held, then the frame that waits for the lock. Every step takes from the front of the chain,
drops some of it, or adds what arrives at its end.
-/

namespace Vauxr.OutputBuffer

open Lib

namespace State

/-! ### What is still to leave -/

def timerStage (s : State) (k : ℕ) : Option TimerStage := s.timers[k]?.map Timer.stage

def handlerStage (s : State) (k : ℕ) : Option HandlerStage := s.handlers[k]?.map Handler.stage

def handlerStamp (s : State) (k : ℕ) : Option ℕ := s.handlers[k]?.map Handler.stamp

/-- The audio that the task with the lock still pushes. -/
def hand (s : State) : List ℕ :=
  match s.work with
  | .flushing frames _ => frames.map Frame.stamp
  | .pushing (.audio stamp) => [stamp]
  | _ => []

/-- The audio that waits for the lock. -/
def waiting (s : State) : List ℕ :=
  if .frame ∈ s.line then
    match s.process with
    | some (.audio f) => [f.stamp]
    | _ => []
  else []

/-- What the buffer keeps for later, and what waits for the lock. -/
def later (s : State) : List ℕ := s.held.map Frame.stamp ++ s.waiting

/-- The audio that has arrived and is still to leave. -/
def chain (s : State) : List ℕ := s.hand ++ s.later

def Ordered (s : State) (chain : List ℕ) : Prop :=
  Outlet Out.stamp Out.isAudio s.arrived chain s.out s.clock

/-- A handler in line before an audio frame began before the frame arrived. -/
def Ahead (s : State) (a b : Task) : Prop :=
  ∀ k n f, a = .handler k → b = .frame → s.handlerStamp k = some n →
    s.process = some (.audio f) → n < f.stamp

/-- The line, the lock and the tasks fit together. -/
structure Shape (s : State) : Prop where
  nodup : s.line.Nodup
  idle : s.line = [] → s.work = .granted
  primed : s.priming = false → s.held = []
  busy : ∀ frames epoch, s.work = .flushing frames epoch → s.held = []
  frame : .frame ∈ s.line → s.process ≠ none
  marker : ∀ m n, s.process = some (.marker m n) → n < s.clock
  timer : ∀ k, .timer k ∈ s.line → s.timerStage k = some .inLine
  handler : ∀ k, .handler k ∈ s.line → s.handlerStage k = some .inLine
  stamped : ∀ k n, s.handlerStamp k = some n → s.handlerStage k ≠ some .base → n < s.clock
  ahead : s.line.Pairwise s.Ahead

structure Inv (s : State) : Prop where
  shape : s.Shape
  ordered : s.Ordered s.chain
  front : ∀ o, s.work = .pushing o → (∀ n ∈ s.later, o.stamp < n) ∧ o.stamp < s.clock

variable {leadMs : ℚ} {s : State} {t : Task} {k : ℕ}

lemma start_inv : start.Inv where
  shape := by constructor <;> simp [start, handlerStamp]
  ordered := Outlet.empty
  front := by simp [start]

@[simp] lemma timerStage_setTimer (s : State) (k j : ℕ) (stage : TimerStage) :
    (s.setTimer k stage).timerStage j =
      if k = j then (s.timerStage j).map fun _ => stage else s.timerStage j := by
  simp only [timerStage, setTimer, List.getElem?_modify]
  split <;> cases s.timers[j]? <;> simp

@[simp] lemma handlerStage_setHandler (s : State) (k j : ℕ) (stage : HandlerStage) :
    (s.setHandler k stage).handlerStage j =
      if k = j then (s.handlerStage j).map fun _ => stage else s.handlerStage j := by
  simp only [handlerStage, setHandler, List.getElem?_modify]
  split <;> cases s.handlers[j]? <;> simp

@[simp] lemma handlerStamp_setHandler (s : State) (k j : ℕ) (stage : HandlerStage) :
    (s.setHandler k stage).handlerStamp j = s.handlerStamp j := by
  simp only [handlerStamp, setHandler, List.getElem?_modify]
  split <;> cases s.handlers[j]? <;> simp

lemma hand_granted (hw : s.work = .granted) : s.hand = [] := by rw [hand, hw]

lemma hand_flushing {frames : List Frame} {epoch : ℕ} (hw : s.work = .flushing frames epoch) :
    s.hand = frames.map Frame.stamp := by rw [hand, hw]

lemma hand_audio {n : ℕ} (hw : s.work = .pushing (.audio n)) : s.hand = [n] := by rw [hand, hw]

lemma later_sublist (s : State) : s.later.Sublist s.chain := List.sublist_append_right _ _

lemma not_mem_tail {l : List Task} (hn : l.Nodup) (hh : l.head? = some t) : t ∉ l.tail := by
  obtain ⟨l', rfl⟩ := List.head?_eq_some_iff.mp hh
  exact (List.nodup_cons.mp hn).1

lemma mem_of_head {l : List Task} (hh : l.head? = some t) : t ∈ l := List.mem_of_head? hh

/-- What the audio in process says after tasks have left the line. -/
lemma waiting_sublist {s s' : State} (hline : s'.line.Sublist s.line)
    (hprocess : .frame ∈ s'.line → s'.process = s.process) : s'.waiting.Sublist s.waiting := by
  unfold waiting
  by_cases h : .frame ∈ s'.line
  · rw [if_pos h, if_pos (hline.subset h), hprocess h]
  · rw [if_neg h]
    exact List.nil_sublist _

/-! ### A task ends -/

@[simp] lemma ended_line (s : State) (t : Task) : (s.ended t).line = s.line := by cases t <;> rfl
@[simp] lemma ended_out (s : State) (t : Task) : (s.ended t).out = s.out := by cases t <;> rfl
@[simp] lemma ended_arrived (s : State) (t : Task) : (s.ended t).arrived = s.arrived := by
  cases t <;> rfl
@[simp] lemma ended_clock (s : State) (t : Task) : (s.ended t).clock = s.clock := by cases t <;> rfl
@[simp] lemma ended_held (s : State) (t : Task) : (s.ended t).held = s.held := by cases t <;> rfl
@[simp] lemma ended_work (s : State) (t : Task) : (s.ended t).work = s.work := by cases t <;> rfl
@[simp] lemma ended_priming (s : State) (t : Task) : (s.ended t).priming = s.priming := by
  cases t <;> rfl
@[simp] lemma ended_process_of_ne (ht : t ≠ .frame) : (s.ended t).process = s.process := by
  cases t <;> first | rfl | exact absurd rfl ht
@[simp] lemma ended_handlerStamp (s : State) (t : Task) (j : ℕ) :
    (s.ended t).handlerStamp j = s.handlerStamp j := by
  cases t with
  | frame => rfl
  | timer k => rfl
  | handler k => exact handlerStamp_setHandler s k j _

lemma ended_timerStage_of_ne {j : ℕ} (ht : t ≠ .timer j) :
    (s.ended t).timerStage j = s.timerStage j := by
  cases t with
  | frame => rfl
  | timer k =>
    have hk : k ≠ j := fun h => ht (h ▸ rfl)
    exact (timerStage_setTimer s k j _).trans (if_neg hk)
  | handler k => rfl

lemma ended_handlerStage_of_ne {j : ℕ} (ht : t ≠ .handler j) :
    (s.ended t).handlerStage j = s.handlerStage j := by
  cases t with
  | frame => rfl
  | timer k => rfl
  | handler k =>
    have hk : k ≠ j := fun h => ht (h ▸ rfl)
    exact (handlerStage_setHandler s k j _).trans (if_neg hk)

/-- A task ends and leaves the line; `t` is the task, `l` what remains of the line. -/
lemma Shape.ended {l : List Task} {w : Work} (hs : s.Shape) (hl : l.Sublist s.line) (ht : t ∉ l)
    (hidle : l = [] → w = .granted)
    (hbusy : ∀ frames epoch, w = .flushing frames epoch → s.held = [])
    (hbase : ∀ k, t = .handler k → s.handlerStage k ≠ some .base) :
    ({ s.ended t with line := l, work := w } : State).Shape where
  nodup := hs.nodup.sublist hl
  idle := hidle
  primed := by simpa using hs.primed
  busy := by simpa using hbusy
  frame hf := by
    have hne : t ≠ .frame := fun h => ht (h ▸ hf)
    rw [ended_process_of_ne hne]
    exact hs.frame (hl.subset hf)
  marker m n hp := by
    rw [ended_clock]
    cases t with
    | frame => exact absurd hp (by simp [State.ended])
    | timer k => exact hs.marker m n hp
    | handler k => exact hs.marker m n hp
  timer k hk := by
    have hne : t ≠ .timer k := fun h => ht (h ▸ hk)
    exact (ended_timerStage_of_ne hne).trans (hs.timer k (hl.subset hk))
  handler k hk := by
    have hne : t ≠ .handler k := fun h => ht (h ▸ hk)
    exact (ended_handlerStage_of_ne hne).trans (hs.handler k (hl.subset hk))
  stamped k n hn hk := by
    rw [ended_clock]
    refine hs.stamped k n ((ended_handlerStamp s t k).symm.trans hn) ?_
    by_cases h : t = .handler k
    · exact hbase k h
    · exact fun hb => hk ((ended_handlerStage_of_ne h).trans hb)
  ahead := by
    refine (hs.ahead.sublist hl).imp_of_mem ?_
    intro a b _ hb hab k n f ha hbf hn hf
    have hne : t ≠ .frame := fun h => ht (by rwa [h, ← hbf])
    exact hab k n f ha hbf ((ended_handlerStamp s t k).symm.trans hn)
      ((ended_process_of_ne hne).symm.trans hf)

lemma Shape.done (hs : s.Shape) (hh : s.line.head? = some t) : (s.done t).Shape := by
  have h := hs.ended (w := .granted) (List.tail_sublist s.line) (not_mem_tail hs.nodup hh)
    (fun _ => rfl) nofun fun k hk => by
      rw [hs.handler k (hk ▸ mem_of_head hh)]
      nofun
  simpa [State.done, release] using h

@[simp] lemma done_out (s : State) (t : Task) : (s.done t).out = s.out := ended_out s t
@[simp] lemma done_arrived (s : State) (t : Task) : (s.done t).arrived = s.arrived :=
  ended_arrived s t
@[simp] lemma done_clock (s : State) (t : Task) : (s.done t).clock = s.clock := ended_clock s t

lemma Inv.done (hs : s.Shape) (ho : s.Ordered s.later) (hh : s.line.head? = some t) :
    (s.done t).Inv where
  shape := hs.done hh
  ordered := by
    have hline : (s.done t).line.Sublist s.line := by
      simpa [State.done, release] using List.tail_sublist s.line
    have hwait : (s.done t).waiting.Sublist s.waiting := by
      refine waiting_sublist hline fun hf => ended_process_of_ne ?_
      rintro rfl
      exact not_mem_tail hs.nodup hh (by simpa [State.done, release] using hf)
    have hheld : (s.done t).held = s.held := ended_held s t
    have hsub : (s.done t).chain.Sublist s.later := by
      rw [chain, hand_granted rfl, List.nil_append, later, hheld]
      exact (List.Sublist.refl _).append hwait
    simpa [Ordered] using ho.sublist hsub
  front o hw := nomatch hw

/-! ### Small steps of a task that has the lock -/

lemma Shape.emit (hs : s.Shape) (o : Out) : (s.emit o).Shape :=
  ⟨hs.nodup, hs.idle, hs.primed, hs.busy, hs.frame, hs.marker, hs.timer, hs.handler, hs.stamped,
    hs.ahead⟩

lemma ne_nil_of_head {l : List Task} (hh : l.head? = some t) : l ≠ [] := by
  rintro rfl
  simp at hh

lemma Shape.setWork {w : Work} (hs : s.Shape) (hne : s.line ≠ [])
    (hbusy : ∀ frames epoch, w = .flushing frames epoch → s.held = []) :
    ({ s with work := w } : State).Shape :=
  ⟨hs.nodup, fun h => absurd h hne, hs.primed, hbusy, hs.frame, hs.marker, hs.timer, hs.handler,
    hs.stamped, hs.ahead⟩

lemma Shape.setTimers {timer : Option ℕ} {timers : List Timer} (hs : s.Shape)
    (h : ∀ k, .timer k ∈ s.line → timers[k]?.map Timer.stage = some .inLine) :
    ({ s with timer := timer, timers := timers } : State).Shape :=
  ⟨hs.nodup, hs.idle, hs.primed, hs.busy, hs.frame, hs.marker, h, hs.handler, hs.stamped, hs.ahead⟩

lemma leave_sublist (s : State) (t : Task) : (s.leave t).line.Sublist s.line := by
  unfold leave
  dsimp only
  split
  · exact List.Sublist.refl _
  · exact List.erase_sublist

lemma leave_head (s : State) (t : Task) : (s.leave t).line.head? = s.line.head? := by
  unfold leave
  dsimp only
  split
  · rfl
  · cases hl : s.line with
    | nil => rfl
    | cons a l =>
      have ha : a ≠ t := by
        rintro rfl
        simp_all
      simp [ha]

lemma Shape.leave (hs : s.Shape) (t : Task) : (s.leave t).Shape where
  nodup := hs.nodup.sublist (leave_sublist s t)
  idle h := by
    refine hs.idle (List.head?_eq_none_iff.mp ?_)
    rw [← leave_head s t, h, List.head?_nil]
  primed := hs.primed
  busy := hs.busy
  frame hf := hs.frame ((leave_sublist s t).subset hf)
  marker := hs.marker
  timer k hk := hs.timer k ((leave_sublist s t).subset hk)
  handler k hk := hs.handler k ((leave_sublist s t).subset hk)
  stamped := hs.stamped
  ahead := hs.ahead.sublist (leave_sublist s t)

lemma leave_later (s : State) (t : Task) : (s.leave t).later.Sublist s.later :=
  (List.Sublist.refl _).append (waiting_sublist (leave_sublist s t) fun _ => rfl)

lemma Shape.cancelTimer (hs : s.Shape) (k : ℕ) : (s.cancelTimer k).Shape := by
  refine (hs.setTimers fun j hj => ?_).leave (.timer k)
  rw [← hs.timer j hj, timerStage, List.getElem?_modify]
  split <;> cases s.timers[j]? <;> rfl

lemma Shape.armTimer (hs : s.Shape) : s.armTimer.Shape := by
  refine hs.setTimers fun j hj => ?_
  obtain ⟨r, hr, -⟩ := Option.map_eq_some_iff.mp (hs.timer j hj)
  rw [List.getElem?_append_left (List.getElem?_eq_some_iff.mp hr).1]
  exact hs.timer j hj

/-! ### The flush -/

lemma Inv.flushed (hs : s.Shape) (hheld : s.held = []) (ho : s.Ordered s.waiting)
    (hh : s.line.head? = some t) : (s.flushed t).Inv := by
  have hlater : s.later = s.waiting := by rw [later, hheld, List.map_nil, List.nil_append]
  unfold State.flushed
  split
  · rename_i m n hp
    have hwait : s.waiting = [] := by
      rw [waiting, hp]
      exact ite_self _
    have hlater' : s.later = [] := hlater.trans hwait
    refine ⟨⟨hs.nodup, fun h => absurd h (ne_nil_of_head hh), fun _ => hheld, nofun, hs.frame,
      hs.marker, hs.timer, hs.handler, hs.stamped, hs.ahead⟩, ?_, ?_⟩
    · refine ho.sublist ?_
      have : s.later.Sublist [] := hlater' ▸ List.Sublist.refl _
      exact this.trans (List.nil_sublist _)
    · rintro o ⟨⟩
      refine ⟨fun n' hn' => ?_, hs.marker m n hp⟩
      have : n' ∈ s.later := hn'
      rw [hlater'] at this
      exact absurd this (List.not_mem_nil)
  · exact Inv.done hs (hlater ▸ ho) hh

lemma Inv.flushOn {epoch : ℕ} {frames : List Frame} (hs : s.Shape) (hheld : s.held = [])
    (ho : s.Ordered (frames.map Frame.stamp ++ s.waiting)) (hh : s.line.head? = some t) :
    (s.flushOn t epoch frames).Inv := by
  unfold State.flushOn
  split
  · exact Inv.flushed hs hheld (ho.sublist (List.sublist_append_right _ _)) hh
  · refine ⟨hs.setWork (ne_nil_of_head hh) fun _ _ _ => hheld, ?_, nofun⟩
    have hlater : s.later = s.waiting := by rw [later, hheld, List.map_nil, List.nil_append]
    have hchain : ({ s with work := .flushing frames epoch } : State).chain =
        frames.map Frame.stamp ++ s.waiting := congrArg (frames.map Frame.stamp ++ ·) hlater
    unfold Ordered
    rw [hchain]
    exact ho

lemma Inv.flush {epoch : ℕ} (hs : s.Shape) (ho : s.Ordered s.later)
    (hh : s.line.head? = some t) : (s.flush t epoch).Inv :=
  Inv.flushOn (s := { s with held := [], heldMs := 0, priming := false })
    ⟨hs.nodup, hs.idle, fun _ => rfl, fun _ _ _ => rfl, hs.frame, hs.marker, hs.timer, hs.handler,
      hs.stamped, hs.ahead⟩ rfl ho hh

/-! ### What is pushed leaves -/

lemma Ordered.emit {o : Out} {l : List ℕ} (ho : s.Ordered (o.stamp :: l)) (h : o.isAudio) :
    (s.emit o).Ordered l := Outlet.emit ho h

lemma Inv.flushing {f : Frame} {frames : List Frame} {epoch : ℕ} (hi : s.Inv)
    (hw : s.work = .flushing (f :: frames) epoch) :
    (s.emit (.audio f.stamp)).Ordered (frames.map Frame.stamp ++ s.later) := by
  have ho := hi.ordered
  rw [chain, hand_flushing hw, List.map_cons, List.cons_append] at ho
  exact Ordered.emit (o := .audio f.stamp) ho rfl

lemma Inv.pushing {o : Out} (hi : s.Inv) (hw : s.work = .pushing o) :
    (s.emit o).Ordered s.later := by
  have ho := hi.ordered
  obtain ⟨hfront, hclock⟩ := hi.front o hw
  cases o with
  | audio n =>
    rw [chain, hand_audio hw, List.singleton_append] at ho
    exact Ordered.emit (o := .audio n) ho rfl
  | marker n => exact Outlet.pass (ho.sublist (later_sublist s)) rfl hfront hclock
  | system n => exact Outlet.pass (ho.sublist (later_sublist s)) rfl hfront hclock

lemma Inv.current {o : Out} (hi : s.Inv) (hc : s.current = some o) :
    (s.emit o).Ordered s.later := by
  unfold State.current at hc
  split at hc
  · rename_i f frames epoch hw
    cases hc
    exact (hi.flushing hw).sublist (List.sublist_append_right _ _)
  · rename_i o' hw
    cases hc
    exact hi.pushing hw
  · cases hc

/-! ### A task has the lock -/

lemma Shape.taken (hs : s.Shape) : ({ s with process := some .taken } : State).Shape :=
  ⟨hs.nodup, hs.idle, hs.primed, hs.busy, fun _ => nofun, nofun, hs.timer, hs.handler, hs.stamped,
    hs.ahead.imp fun _ _ _ _ _ _ _ hp => nomatch hp⟩

lemma Inv.audio {f : Frame} (hi : s.Inv) (hh : s.line.head? = some .frame)
    (hw : s.work = .granted) (hp : s.process = some (.audio f)) : (s.audio leadMs f).Inv := by
  have hlater : s.later = s.held.map Frame.stamp ++ [f.stamp] := by
    rw [later, waiting, if_pos (mem_of_head hh), hp]
  have ho := hi.ordered.sublist (hlater ▸ later_sublist s)
  have hs := hi.shape.taken
  have hwait : ∀ s : State, s.process = some .taken → s.waiting = [] := by
    intro s hp
    rw [waiting, hp]
    exact ite_self _
  unfold State.audio
  dsimp only
  split
  · refine Inv.done hs (ho.sublist ?_) hh
    rw [later, hwait _ rfl]
    exact (List.Sublist.refl _).append (List.nil_sublist _)
  · split
    · rename_i hprim
      -- the frame is held: it is still to leave, after all that was held before
      have hs' : ({ s with
          process := some .taken
          held := s.held ++ [f]
          heldMs := s.heldMs + f.ms } : State).Shape :=
        ⟨hs.nodup, hs.idle, fun h => by simp_all, fun frames epoch h => by simp_all, hs.frame,
          hs.marker, hs.timer, hs.handler, hs.stamped, hs.ahead⟩
      have ho' : ({ s with
          process := some .taken
          held := s.held ++ [f]
          heldMs := s.heldMs + f.ms } : State).Ordered
          ({ s with
            process := some .taken
            held := s.held ++ [f]
            heldMs := s.heldMs + f.ms } : State).later := by
        rw [later, hwait _ rfl, List.append_nil, List.map_append]
        exact ho
      split
      · split
        · refine Inv.flush (hs'.cancelTimer _) (ho'.sublist (leave_later _ _)) ?_
          exact (leave_head _ _).trans hh
        · exact Inv.flush hs' ho' hh
      · split
        · exact Inv.done hs' ho' hh
        · exact Inv.done hs'.armTimer ho' hh
    · rename_i hprim
      have hheld : s.held = [] := hi.shape.primed (by simpa using hprim)
      refine ⟨hs.setWork (ne_nil_of_head hh) nofun, ?_, ?_⟩
      · rw [chain, later, hwait _ rfl, List.append_nil, hheld]
        rw [hheld] at ho
        exact ho
      · rintro o ⟨⟩
        rw [later, hwait _ rfl, hheld]
        exact ⟨nofun, ho.chain_lt _ (List.mem_append_right _ List.mem_cons_self)⟩

/-- A marker that finds a timer waits for its end. -/
lemma Inv.marker (hi : s.Inv) (hh : s.line.head? = some .frame) : s.marker.Inv := by
  unfold State.marker
  split
  · rename_i t _
    have hs := hi.shape.cancelTimer t
    refine ⟨hs.setWork (ne_nil_of_head ((leave_head _ _).trans hh)) nofun, ?_, nofun⟩
    exact hi.ordered.sublist ((leave_later _ _).trans (later_sublist s))
  · exact Inv.flush hi.shape (hi.ordered.sublist (later_sublist s)) hh

lemma Inv.locked (hi : s.Inv) (hh : s.line.head? = some t) (hw : s.work = .granted) :
    (s.locked leadMs t).Inv := by
  have hlater := hi.ordered.sublist (later_sublist s)
  cases t with
  | frame =>
    simp only [State.locked]
    split
    · rename_i f hp
      exact hi.audio hh hw hp
    · exact hi.marker hh
    · exact Inv.done hi.shape hlater hh
  | timer k =>
    simp only [State.locked]
    split
    · split
      · exact Inv.flush hi.shape hlater hh
      · exact Inv.done hi.shape hlater hh
    · exact hi
  | handler k =>
    simp only [State.locked]
    split
    · rename_i h hk
      have hs : ({ s with held := [], heldMs := 0 } : State).Shape :=
        ⟨hi.shape.nodup, hi.shape.idle, fun _ => rfl, fun _ _ _ => rfl, hi.shape.frame,
          hi.shape.marker, hi.shape.timer, hi.shape.handler, hi.shape.stamped, hi.shape.ahead⟩
      have ho : ({ s with held := [], heldMs := 0 } : State).Ordered s.waiting :=
        hlater.sublist (List.sublist_append_right _ _)
      split
      · exact Inv.done hs ho hh
      · have hstamp : s.handlerStamp k = some h.stamp := by rw [handlerStamp, hk, Option.map_some]
        refine ⟨⟨hs.nodup, fun hl => absurd hl (ne_nil_of_head hh), fun _ => rfl, fun _ _ _ => rfl,
          hs.frame, hs.marker, hs.timer, hs.handler, hs.stamped, hs.ahead⟩, ho, ?_⟩
        rintro o ⟨⟩
        refine ⟨fun n hn => ?_, hs.stamped k _ hstamp ?_⟩
        · -- the frame that waits is in line behind the handler
          have hn : n ∈ s.waiting := hn
          unfold waiting at hn
          split at hn
          · rename_i hf
            split at hn
            · rename_i f hp
              obtain ⟨l, hl⟩ := List.head?_eq_some_iff.mp hh
              have ha := hi.shape.ahead
              rw [hl] at ha hf
              have hf : .frame ∈ l := by simpa using hf
              rw [List.mem_singleton.mp hn]
              exact (List.pairwise_cons.mp ha).1 _ hf k _ f rfl rfl hstamp hp
            · exact absurd hn List.not_mem_nil
          · exact absurd hn List.not_mem_nil
        · have hstage : s.handlerStage k = some .inLine := hs.handler k (mem_of_head hh)
          exact fun hb => nomatch hstage.symm.trans hb
    · exact hi

/-- The task with the lock goes on. -/
lemma Inv.goOn (hi : s.Inv) (hh : s.line.head? = some t) : (s.goOn leadMs t).Inv := by
  unfold State.goOn
  split
  · rename_i hw
    exact hi.locked hh hw
  · split
    · exact Inv.flush hi.shape (hi.ordered.sublist (later_sublist s)) hh
    · exact hi
  · rename_i f frames epoch hw
    have hheld := hi.shape.busy _ _ hw
    refine Inv.flushOn (hi.shape.emit _) hheld ?_ hh
    have ho := hi.flushing hw
    rw [later, hheld, List.map_nil, List.nil_append] at ho
    exact ho
  · exact hi
  · rename_i o hw
    exact Inv.done (hi.shape.emit o) (hi.pushing hw) hh

/-- A cancelled task lets go of the lock, or of its place in the line. -/
lemma Inv.kill {emitted : Bool} (hi : s.Inv) (hc : s.isCancelled t = true) :
    (s.kill t emitted).Inv := by
  unfold State.kill
  split
  · rename_i hh
    have hlater := hi.ordered.sublist (later_sublist s)
    dsimp only
    split
    · rename_i o ho
      split
      · exact Inv.done (hi.shape.emit o) (hi.current ho) hh
      · exact Inv.done hi.shape hlater hh
    · exact Inv.done hi.shape hlater hh
  · rename_i hh
    have hs := hi.shape
    have hline : s.line.erase t = (s.leave t).line := by rw [leave, if_neg hh]
    have hnot : t ∉ s.line.erase t := hs.nodup.not_mem_erase
    have hshape := hs.ended (w := s.work) List.erase_sublist hnot
      (fun h => (hs.leave t).idle (hline ▸ h)) hs.busy fun k hk => by
        rw [hk] at hc
        cases hc
    have hwork : ({ s.ended t with line := s.line.erase t } : State) =
        { s.ended t with line := s.line.erase t, work := s.work } := by
      rw [← ended_work s t]
    have hwait : ({ s.ended t with line := s.line.erase t, work := s.work } : State).waiting.Sublist
        s.waiting :=
      waiting_sublist List.erase_sublist fun hf => ended_process_of_ne fun ht => hnot (ht ▸ hf)
    have hlater : ({ s.ended t with line := s.line.erase t, work := s.work } : State).later.Sublist
        s.later := by
      unfold later
      dsimp only
      rw [ended_held]
      exact (List.Sublist.refl _).append hwait
    rw [hwork]
    refine ⟨hshape, ?_, ?_⟩
    · have h := hi.ordered.sublist ((List.Sublist.refl s.hand).append hlater)
      change Outlet _ _ (s.ended t).arrived (s.hand ++ State.later _) (s.ended t).out
        (s.ended t).clock
      rw [ended_arrived, ended_out, ended_clock]
      exact h
    · intro o ho
      obtain ⟨hfront, hclock⟩ := hi.front o ho
      exact ⟨fun n hn => hfront n (hlater.subset hn), by simpa using hclock⟩

/-! ### A task joins the line -/

lemma Shape.join (hs : s.Shape) (hnot : t ∉ s.line) (hframe : t = .frame → s.process ≠ none)
    (htimer : ∀ k, t = .timer k → s.timerStage k = some .inLine)
    (hhandler : ∀ k, t = .handler k → s.handlerStage k = some .inLine)
    (hahead : ∀ a ∈ s.line, s.Ahead a t) :
    (s.join t).Shape where
  nodup := List.nodup_append.mpr ⟨hs.nodup, List.nodup_singleton t, by
    rintro a ha b hb rfl
    exact hnot (List.mem_singleton.mp hb ▸ ha)⟩
  idle h := absurd h (by simp [State.join])
  primed := hs.primed
  busy := hs.busy
  frame hf := by
    rcases List.mem_append.mp hf with hf | hf
    · exact hs.frame hf
    · exact hframe (List.mem_singleton.mp hf).symm
  marker := hs.marker
  timer k hk := by
    rcases List.mem_append.mp hk with hk | hk
    · exact hs.timer k hk
    · exact htimer k (List.mem_singleton.mp hk).symm
  handler k hk := by
    rcases List.mem_append.mp hk with hk | hk
    · exact hs.handler k hk
    · exact hhandler k (List.mem_singleton.mp hk).symm
  stamped := hs.stamped
  ahead := by
    refine List.pairwise_append.mpr ⟨hs.ahead, List.pairwise_singleton _ _, ?_⟩
    intro a ha b hb
    rw [List.mem_singleton.mp hb]
    exact hahead a ha

/-- The lock is taken at once where nobody is in line. -/
lemma Inv.request (hi : (s.join t).Inv)
    (hidle : s.line = [] → s.work = .granted) : (s.request leadMs t).Inv := by
  unfold State.request
  split
  · rename_i hl
    refine hi.locked ?_ (hidle hl)
    rw [State.join, hl, List.nil_append, List.head?_singleton]
  · exact hi

/-- A timer or a handler joins the line. -/
lemma Inv.join (hi : s.Inv) (hnot : t ∉ s.line) (ht : t ≠ .frame)
    (htimer : ∀ k, t = .timer k → s.timerStage k = some .inLine)
    (hhandler : ∀ k, t = .handler k → s.handlerStage k = some .inLine) :
    (s.request leadMs t).Inv := by
  refine Inv.request ?_ hi.shape.idle
  have hwait : (s.join t).waiting = s.waiting := by
    have hmem : .frame ∈ (s.join t).line ↔ .frame ∈ s.line := by simp [State.join, Ne.symm ht]
    unfold waiting
    simp only [hmem]
    rfl
  have hlater : (s.join t).later = s.later :=
    congrArg (s.held.map Frame.stamp ++ ·) hwait
  refine ⟨hi.shape.join hnot (fun h => absurd h ht) htimer hhandler ?_, ?_, ?_⟩
  · rintro a - k n f - hf
    exact absurd hf ht
  · unfold chain Ordered
    rw [hlater]
    exact hi.ordered
  · rw [hlater]
    exact hi.front

/-! ### Handlers -/

lemma Inv.setTimer {stage : TimerStage} (hi : s.Inv) (hnot : .timer k ∉ s.line) :
    (s.setTimer k stage).Inv := by
  refine ⟨hi.shape.setTimers fun j hj => ?_, hi.ordered, hi.front⟩
  have hne : k ≠ j := by
    rintro rfl
    exact hnot hj
  rw [← hi.shape.timer j hj]
  exact (timerStage_setTimer s k j stage).trans (if_neg hne)

lemma Inv.setHandler {stage : HandlerStage} (hi : s.Inv) (hnot : .handler k ∉ s.line)
    (hlt : ∀ n, s.handlerStamp k = some n → n < s.clock) : (s.setHandler k stage).Inv := by
  have hs := hi.shape
  refine ⟨⟨hs.nodup, hs.idle, hs.primed, hs.busy, hs.frame, hs.marker, hs.timer, ?_, ?_, ?_⟩,
    hi.ordered, hi.front⟩
  · intro j hj
    have hne : k ≠ j := by
      rintro rfl
      exact hnot hj
    rw [handlerStage_setHandler, if_neg hne]
    exact hs.handler j hj
  · intro j n hn hb
    rw [handlerStamp_setHandler] at hn
    rw [handlerStage_setHandler] at hb
    by_cases hkj : k = j
    · subst hkj
      exact hlt n hn
    · rw [if_neg hkj] at hb
      exact hs.stamped j n hn hb
  · refine hs.ahead.imp ?_
    intro a b hab j n f ha hb hn hf
    rw [handlerStamp_setHandler] at hn
    exact hab j n f ha hb hn hf

lemma Inv.leave (hi : s.Inv) (t : Task) : (s.leave t).Inv where
  shape := hi.shape.leave t
  ordered := hi.ordered.sublist ((List.Sublist.refl _).append (leave_later s t))
  front o hw :=
    ⟨fun n hn => (hi.front o hw).1 n ((leave_later s t).subset hn), (hi.front o hw).2⟩

lemma Inv.cancelTimer (hi : s.Inv) (k : ℕ) : (s.cancelTimer k).Inv where
  shape := hi.shape.cancelTimer k
  ordered := hi.ordered.sublist ((List.Sublist.refl _).append (leave_later _ _))
  front o hw :=
    ⟨fun n hn => (hi.front o hw).1 n ((leave_later _ _).subset hn), (hi.front o hw).2⟩

@[simp] lemma handlerStage_enter (s : State) (k j : ℕ) (kind : Kind) :
    (s.enter k kind).handlerStage j = s.handlerStage j := by
  simp only [handlerStage, enter, List.getElem?_modify]
  split <;> cases s.handlers[j]? <;> simp

lemma handlerStamp_enter (s : State) (k j : ℕ) (kind : Kind) :
    (s.enter k kind).handlerStamp j =
      if k = j then (s.handlerStamp j).map fun _ => s.clock else s.handlerStamp j := by
  simp only [handlerStamp, enter, List.getElem?_modify]
  split <;> cases s.handlers[j]? <;> simp

lemma Inv.enter {kind : Kind} (hi : s.Inv) (hb : s.handlerStage k = some .base) :
    (s.enter k kind).Inv := by
  have hs := hi.shape
  refine ⟨⟨hs.nodup, hs.idle, hs.primed, hs.busy, hs.frame, ?_, hs.timer, ?_, ?_, ?_⟩,
    hi.ordered.tick, ?_⟩
  · exact fun m n hp => (hs.marker m n hp).trans (Nat.lt_succ_self _)
  · intro j hj
    rw [handlerStage_enter]
    exact hs.handler j hj
  · intro j n hn hj
    rw [handlerStage_enter] at hj
    have hne : k ≠ j := by
      rintro rfl
      exact hj hb
    rw [handlerStamp_enter, if_neg hne] at hn
    exact (hs.stamped j n hn hj).trans (Nat.lt_succ_self _)
  · refine hs.ahead.imp_of_mem ?_
    rintro a b ha - hab j n f rfl hb' hn hf
    have hne : k ≠ j := by
      rintro rfl
      exact nomatch hb.symm.trans (hs.handler k ha)
    rw [handlerStamp_enter, if_neg hne] at hn
    exact hab j n f rfl hb' hn hf
  · intro o hw
    exact ⟨(hi.front o hw).1, (hi.front o hw).2.trans (Nat.lt_succ_self _)⟩

lemma Inv.begin {kind : Kind} (hi : s.Inv) (hb : s.handlerStage k = some .base) :
    (s.begin leadMs k kind).Inv := by
  have he : (s.enter k kind).Inv := hi.enter hb
  have hstamp : ∀ n, (s.enter k kind).handlerStamp k = some n → n < (s.enter k kind).clock := by
    intro n hn
    rw [handlerStamp_enter, if_pos rfl] at hn
    obtain ⟨-, -, rfl⟩ := Option.map_eq_some_iff.mp hn
    exact Nat.lt_succ_self _
  have hnot : ∀ s' : State, s'.Inv → s'.handlerStage k = some .base → .handler k ∉ s'.line :=
    fun s' hi' hb' hk => nomatch hb'.symm.trans (hi'.shape.handler k hk)
  have hbase : (s.enter k kind).handlerStage k = some .base :=
    (handlerStage_enter s k k kind).trans hb
  unfold State.begin
  split
  · rename_i t _
    exact (he.cancelTimer t).setHandler (hnot _ (he.cancelTimer t) hbase) hstamp
  · have hset : ((s.enter k kind).setHandler k .inLine).Inv :=
      he.setHandler (hnot _ he hbase) hstamp
    refine hset.join (hnot _ he hbase :) (by simp) (by simp) ?_
    rintro j ⟨⟩
    rw [handlerStage_setHandler, if_pos rfl, hbase]
    rfl

lemma Inv.addHandler {kind : Kind} (hi : s.Inv) :
    ({ s with handlers := s.handlers ++ [⟨kind, 0, .base⟩] } : State).Inv ∧
      ({ s with handlers := s.handlers ++ [⟨kind, 0, .base⟩] } : State).handlerStage
        s.handlers.length = some .base := by
  have hs := hi.shape
  have hold : ∀ j, j ≠ s.handlers.length →
      (s.handlers ++ [⟨kind, 0, .base⟩])[j]? = s.handlers[j]? := by
    intro j hj
    rcases Nat.lt_or_ge j s.handlers.length with hlt | hge
    · exact List.getElem?_append_left hlt
    · rw [List.getElem?_eq_none hge, List.getElem?_eq_none]
      simp only [List.length_append, List.length_singleton]
      omega
  have hnew : (s.handlers ++ [⟨kind, 0, .base⟩])[s.handlers.length]? = some ⟨kind, 0, .base⟩ :=
    List.getElem?_concat_length
  have hline : ∀ j, .handler j ∈ s.line → j ≠ s.handlers.length := by
    rintro j hj rfl
    have h := hs.handler _ hj
    rw [handlerStage, List.getElem?_eq_none le_rfl] at h
    cases h
  refine ⟨⟨⟨hs.nodup, hs.idle, hs.primed, hs.busy, hs.frame, hs.marker, hs.timer, ?_, ?_, ?_⟩,
    hi.ordered, hi.front⟩, ?_⟩
  · intro j hj
    rw [handlerStage, hold j (hline j hj)]
    exact hs.handler j hj
  · intro j n hn hj
    by_cases h : j = s.handlers.length
    · subst h
      rw [handlerStage, hnew] at hj
      exact absurd rfl hj
    · rw [handlerStamp, hold j h] at hn
      rw [handlerStage, hold j h] at hj
      exact hs.stamped j n hn hj
  · refine hs.ahead.imp_of_mem ?_
    rintro a b ha - hab j n f rfl hb hn hf
    rw [handlerStamp, hold j (hline j ha)] at hn
    exact hab j n f rfl hb hn hf
  · rw [handlerStage, hnew]
    rfl

/-! ### Every step -/

lemma Inv.resume {emitted : Bool} (hi : s.Inv) : (s.resume leadMs t emitted).Inv := by
  unfold State.resume
  split
  · rename_i hc
    exact hi.kill hc
  · split
    · rename_i hh
      exact hi.goOn hh
    · cases t with
      | frame => exact hi
      | timer k =>
        dsimp only
        split
        · rename_i e c hk
          have hstage : s.timerStage k = some .sleeping := by rw [timerStage, hk]; rfl
          have hnot : .timer k ∉ s.line := fun h => nomatch hstage.symm.trans (hi.shape.timer k h)
          refine (hi.setTimer hnot).join hnot (by simp) ?_ (by simp)
          rintro j ⟨⟩
          rw [timerStage_setTimer, if_pos rfl, hstage]
          rfl
        · exact hi
      | handler k =>
        dsimp only
        split
        · rename_i kind n hk
          have hb : s.handlerStage k = some .base := by rw [handlerStage, hk]; rfl
          split
          · exact hi
          · exact hi.begin hb
        · rename_i kind n j hk
          have hb : s.handlerStage k = some (.stopping j) := by rw [handlerStage, hk]; rfl
          have hnot : .handler k ∉ s.line := fun h => nomatch hb.symm.trans (hi.shape.handler k h)
          split
          · have hset : (s.setHandler k .inLine).Inv := hi.setHandler hnot fun n hn =>
              hi.shape.stamped k n hn (by rw [hb]; simp)
            refine hset.join hnot (by simp) (by simp) ?_
            rintro j ⟨⟩
            rw [handlerStage_setHandler, if_pos rfl, hb]
            rfl
          · exact hi
        · exact hi

/-! ### A frame arrives -/

/-- What arrives bears the time as its stamp. -/
def Fresh (s : State) : Item → Prop
  | .audio f => f.stamp = s.clock
  | .taken => False
  | .marker _ n => n = s.clock

lemma Shape.accept {item : Item} (hs : s.Shape) (hnot : .frame ∉ s.line) (hitem : s.Fresh item) :
    (s.accept item).Shape where
  nodup := hs.nodup
  idle := hs.idle
  primed := hs.primed
  busy := hs.busy
  frame h := absurd h hnot
  marker m n hp := by
    cases hp
    rw [show n = s.clock from hitem]
    exact Nat.lt_succ_self _
  timer := hs.timer
  handler := hs.handler
  stamped k n hn hk := (hs.stamped k n hn hk).trans (Nat.lt_succ_self _)
  ahead := by
    refine hs.ahead.imp_of_mem ?_
    rintro a b - hb - k n f - rfl
    exact absurd hb hnot

lemma later_of_not_mem (hnot : .frame ∉ s.line) : s.later = s.held.map Frame.stamp := by
  rw [later, waiting, if_neg hnot, List.append_nil]

lemma later_join_frame (s : State) : (s.join .frame).later = s.held.map Frame.stamp ++
    match s.process with
    | some (.audio f) => [f.stamp]
    | _ => [] := by
  have hmem : .frame ∈ (s.join .frame).line := List.mem_append_right _ List.mem_cons_self
  unfold later waiting
  rw [if_pos hmem]
  rfl

lemma Inv.arrive {item : Item} (hi : s.Inv) (hitem : s.Fresh item) :
    (s.arrive leadMs item).Inv := by
  unfold State.arrive
  split
  · rename_i hp
    have hp : s.process = none := Option.isNone_iff_eq_none.mp hp
    have hnot : .frame ∉ s.line := fun h => hi.shape.frame h hp
    have hchain : s.chain = s.hand ++ s.held.map Frame.stamp := by
      rw [chain, later_of_not_mem hnot]
    refine Inv.request ⟨(hi.shape.accept hnot hitem).join hnot (fun _ => nofun) nofun nofun ?_, ?_,
      ?_⟩ hi.shape.idle
    · -- the handlers in line began before
      rintro a ha k n f rfl - hn hf
      cases hf
      rw [show f.stamp = s.clock from hitem]
      refine hi.shape.stamped k n hn ?_
      rw [hi.shape.handler k ha]
      nofun
    · have ho := hi.ordered
      rw [hchain] at ho
      rw [chain, later_join_frame]
      cases item with
      | audio f =>
        have hf : f.stamp = s.clock := hitem
        have h := Outlet.arrive ho
        rw [List.append_assoc] at h
        have harrived : ((s.accept (.audio f)).join .frame).arrived = s.arrived ++ [s.clock] :=
          congrArg (s.arrived ++ [·]) hf
        change Outlet _ _ ((s.accept (.audio f)).join .frame).arrived
          (s.hand ++ (s.held.map Frame.stamp ++ [f.stamp])) s.out (s.clock + 1)
        rw [harrived, hf]
        exact h
      | taken => exact hitem.elim
      | marker m n =>
        rw [show (s.accept (.marker m n)).process = some (.marker m n) from rfl, List.append_nil]
        exact Outlet.tick ho
    · intro o hw
      obtain ⟨hfront, hclock⟩ := hi.front o hw
      rw [later_of_not_mem hnot] at hfront
      refine ⟨fun n hn => ?_, hclock.trans (Nat.lt_succ_self _)⟩
      rw [later_join_frame] at hn
      rcases List.mem_append.mp hn with hn | hn
      · exact hfront n hn
      · cases item with
        | audio f =>
          rw [List.mem_singleton.mp hn, show f.stamp = s.clock from hitem]
          exact hclock
        | taken => exact hitem.elim
        | marker m n' => exact absurd hn List.not_mem_nil
  · exact hi

lemma Inv.step {a : Action} (hi : s.Inv) : (s.step leadMs a).Inv := by
  cases a with
  | audio ms => exact hi.arrive rfl
  | marker m => exact hi.arrive rfl
  | interrupt kind =>
    simp only [State.step]
    split
    · exact hi.addHandler.1.begin hi.addHandler.2
    · exact hi.addHandler.1
  | abandon =>
    simp only [State.step]
    split
    · have h : ({ s with abandoned := true } : State).Inv :=
        ⟨⟨hi.shape.nodup, hi.shape.idle, hi.shape.primed, hi.shape.busy, hi.shape.frame,
          hi.shape.marker, hi.shape.timer, hi.shape.handler, hi.shape.stamped, hi.shape.ahead⟩,
          hi.ordered, hi.front⟩
      exact h.leave .frame
    · exact hi
  | resume t emitted => exact hi.resume

lemma inv (leadMs : ℚ) (acts : List Action) : (after (step leadMs) start acts).Inv :=
  Throughout.invariant (P := fun _ _ => True) (fun _ _ hi _ => hi.step) start_inv
    (Throughout.of_forall (fun _ _ => trivial) start acts)

end State

/-- **The buffer keeps the order.** In every run the audio that leaves is a part of the audio that
arrived, in that order and each frame at most once; and nothing that leaves, be it audio, a marker
or an interruption, is followed by audio that arrived before it. -/
theorem in_order (leadMs : ℚ) (acts : List Action) :
    let s := after (State.step leadMs) State.start acts
    s.arrived.Pairwise (· < ·) ∧ ((s.out.filter Out.isAudio).map Out.stamp).Sublist s.arrived ∧
      s.out.Pairwise fun o o' => o'.isAudio → o.stamp < o'.stamp := by
  have hi := State.inv leadMs acts
  refine ⟨hi.ordered.sorted, ?_, hi.ordered.emitted⟩
  exact (List.sublist_append_left _ _).trans hi.ordered.whole

end Vauxr.OutputBuffer
