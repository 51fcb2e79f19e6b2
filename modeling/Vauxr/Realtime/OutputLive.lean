import Mathlib
import Vauxr.Lib.Fairness
import Vauxr.Lib.Run
import Vauxr.Realtime.OutputOrder

/-!
What the output jitter buffer does where nothing interrupts it.

A calm buffer is at one of a few places. From each of them every step either lets the first audio
of the chain out, or brings it nearer to its way out, or leaves it to the same task; so where every
task goes on again and again, all that arrives leaves.
-/

namespace Vauxr.OutputBuffer

open Lib

/-- A frame that asks for the lock: audio, or a marker other than the end. -/
def Item.Asks : Item → Prop
  | .audio _ => True
  | .taken => False
  | .marker m _ => m ≠ .endFrame

/-- The audio of a frame. -/
def Item.stamps : Item → List ℕ
  | .audio f => [f.stamp]
  | _ => []

/-- A frame that flushes: audio that is held, or such a marker. -/
def Item.Flushes : Item → Prop
  | .audio _ => False
  | .taken => True
  | .marker m _ => m ≠ .endFrame

/-- Not an interruption, a cancel or end frame, or `cleanup`. -/
def Action.Quiet : Action → Prop
  | .audio _ => True
  | .marker m => m ≠ .endFrame
  | .interrupt _ => False
  | .abandon => False
  | .resume _ _ => True

namespace State

/-! ### Without interruptions -/

/-- The audio that has left. -/
def audioOut (s : State) : List ℕ := (s.out.filter Out.isAudio).map Out.stamp

/-- Nothing has interrupted, ended or cleaned up the buffer, and no timer is at work but the one
that `_timer` names. -/
structure Calm (s : State) : Prop where
  closed : s.closed = false
  handlers : s.handlers = []
  abandoned : s.abandoned = false
  primed : s.priming = false → s.held = []
  stale : ∀ k r, s.timers[k]? = some r → s.timer ≠ some k → r.cancelled = true ∨ r.stage = .over
  current : ∀ k, s.timer = some k → ∃ stage, s.timers[k]? = some ⟨s.epoch, false, stage⟩ ∧
    stage ≠ .over ∧ (stage = .sleeping ∨ .timer k ∈ s.line)

/-- Where the buffer can be while it is calm. -/
inductive Place (s : State) : Prop
  | resting : s.line = [] → s.work = .granted → s.process = none →
      (s.timer = none ↔ s.held = []) → Place s
  | flushing (k : ℕ) (f : Frame) (frames : List Frame) : s.line = [.timer k] →
      s.work = .flushing (f :: frames) s.epoch → s.process = none → s.timer = some k →
      s.held = [] → Place s
  | awaited (k : ℕ) (f : Frame) (frames : List Frame) (item : Item) :
      s.line = [.timer k, .frame] → s.work = .flushing (f :: frames) s.epoch →
      s.process = some item → item.Asks → s.timer = some k → s.held = [] → Place s
  | granted (item : Item) : s.line = [.frame] → s.work = .granted → s.process = some item →
      item.Asks → s.timer = none → s.held = [] → Place s
  | stopping (t : ℕ) (m : Marker) (n : ℕ) : s.line = [.frame] → s.work = .stopping t →
      s.process = some (.marker m n) → m ≠ .endFrame → s.timer = none → s.held ≠ [] → Place s
  | emptying (f : Frame) (frames : List Frame) (item : Item) : s.line = [.frame] →
      s.work = .flushing (f :: frames) s.epoch → s.process = some item → item.Flushes →
      s.timer = none → s.held = [] → Place s
  | passing (n : ℕ) : s.line = [.frame] → s.work = .pushing (.audio n) →
      s.process = some .taken → s.timer = none → s.held = [] → Place s
  | marking (m : Marker) (n : ℕ) (n' : ℕ) : s.line = [.frame] → s.work = .pushing (.marker n) →
      s.process = some (.marker m n') → s.timer = none → s.held = [] → Place s

/-- How far the first of the audio is from its way out. -/
def stage (s : State) : ℕ :=
  match s.work with
  | .granted => if s.line = [] then 4 else 5
  | .stopping t => if s.isOver t then 2 else 3
  | .flushing _ _ => 1
  | .pushing _ => 1

/-- The task that has to go on for it. -/
def helper (s : State) : Task :=
  match s.line with
  | [] =>
    match s.timer with
    | some k => .timer k
    | none => .frame
  | t :: _ =>
    match s.work with
    | .stopping j => if s.isOver j then t else .timer j
    | _ => t

/-- What an action makes of the audio that is still to leave. -/
inductive Goes (s : State) (a : Action) (s' : State) : Prop
  | emits (x : ℕ) : s.chain = x :: s'.chain → s'.audioOut = s.audioOut ++ [x] →
      s'.arrived = s.arrived → Goes s a s'
  | advances (l : List ℕ) : s'.chain = s.chain ++ l → s'.audioOut = s.audioOut →
      s'.arrived = s.arrived ++ l → (s.chain ≠ [] → s'.stage < s.stage) → Goes s a s'
  | stays (l : List ℕ) : s'.chain = s.chain ++ l → s'.audioOut = s.audioOut →
      s'.arrived = s.arrived ++ l →
      (s.chain ≠ [] → s'.stage = s.stage ∧ s'.helper = s.helper ∧
        ∀ emitted, a ≠ .resume s.helper emitted) → Goes s a s'

structure Next (s : State) (a : Action) (s' : State) : Prop where
  calm : s'.Calm
  place : s'.Place
  goes : Goes s a s'

variable {leadMs : ℚ} {s s' : State}

/-! ### The chain, place by place -/

lemma chain_resting (hl : s.line = []) (hw : s.work = .granted) :
    s.chain = s.held.map Frame.stamp := by
  simp [chain, hand_granted hw, later, waiting, hl]

lemma chain_granted {item : Item} (hl : s.line = [.frame]) (hw : s.work = .granted)
    (hp : s.process = some item) :
    s.chain = s.held.map Frame.stamp ++ item.stamps := by
  simp only [chain, hand_granted hw, List.nil_append, later, waiting, hl, hp, List.mem_singleton,
    if_true]
  cases item <;> rfl

lemma chain_flushing {k : ℕ} {frames : List Frame} {epoch : ℕ} (hl : s.line = [.timer k])
    (hw : s.work = .flushing frames epoch) (hh : s.held = []) :
    s.chain = frames.map Frame.stamp := by
  simp [chain, hand_flushing hw, later, waiting, hl, hh]

lemma chain_awaited {k : ℕ} {frames : List Frame} {epoch : ℕ} {item : Item}
    (hl : s.line = [.timer k, .frame]) (hw : s.work = .flushing frames epoch)
    (hp : s.process = some item) (hh : s.held = []) :
    s.chain = frames.map Frame.stamp ++ item.stamps := by
  simp only [chain, hand_flushing hw, later, waiting, hl, hh, hp, List.map_nil, List.nil_append]
  cases item <;> simp [Item.stamps]

lemma chain_emptying {frames : List Frame} {epoch : ℕ} {item : Item} (hl : s.line = [.frame])
    (hw : s.work = .flushing frames epoch) (hp : s.process = some item) (hi : item.Flushes)
    (hh : s.held = []) : s.chain = frames.map Frame.stamp := by
  simp only [chain, hand_flushing hw, later, waiting, hl, hh, hp, List.map_nil, List.nil_append]
  cases item with
  | audio f => exact hi.elim
  | taken => simp
  | marker m n => simp

/-! ### The frame has the lock -/

/-- What the frame does once it has the lock, in terms of what is still to leave. -/
structure Served (s s' : State) : Prop where
  calm : s'.Calm
  place : s'.Place
  chain : s'.chain = s.chain
  out : s'.audioOut = s.audioOut
  arrived : s'.arrived = s.arrived
  stage : s'.stage < 5
  timed : ∀ k, s.timer = some k → s'.stage < 4 ∨ (s'.stage = 4 ∧ s'.helper = .timer k)

/-- All that was held is flushed. -/
structure Emptied (s s' : State) : Prop where
  calm : s'.Calm
  place : s'.Place
  chain : s'.chain = s.held.map Frame.stamp
  out : s'.out = s.out
  arrived : s'.arrived = s.arrived
  stage : s'.stage = 1

lemma flush_frame {item : Item} (hc : s.Calm) (hl : s.line = [.frame])
    (hp : s.process = some item) (hi : item.Flushes) (ht : s.timer = none) (hh : s.held ≠ []) :
    Emptied s (s.flush .frame s.epoch) := by
  obtain ⟨f, frames, hf⟩ := List.exists_cons_of_ne_nil hh
  have hflush : s.flush .frame s.epoch = { s with
      held := [], heldMs := 0, priming := false, work := .flushing (f :: frames) s.epoch } := by
    simp [flush, flushOn, hc.closed, hf]
  have hwait : ∀ s' : State, s'.process = some item → s'.waiting = [] := by
    intro s' hp'
    rw [waiting, hp']
    cases item with
    | audio f => exact hi.elim
    | taken => exact ite_self _
    | marker m n => exact ite_self _
  rw [hflush]
  refine ⟨⟨hc.closed, hc.handlers, hc.abandoned, fun _ => rfl, hc.stale, hc.current⟩,
    .emptying f frames item hl rfl hp hi ht rfl, ?_, rfl, rfl, rfl⟩
  refine (congrArg (fun l => _ ++ (_ ++ l)) (hwait _ hp)).trans ?_
  simp [hand, hf]

lemma Calm.cancelTimer {t : ℕ} (hc : s.Calm) (ht : s.timer = some t) :
    (s.cancelTimer t).Calm where
  closed := hc.closed
  handlers := hc.handlers
  abandoned := hc.abandoned
  primed := hc.primed
  stale k r hr _ := by
    have hr : (s.timers.modify t fun r => { r with cancelled := true })[k]? = some r := hr
    rw [List.getElem?_modify] at hr
    obtain ⟨r₀, hr₀, rfl⟩ := Option.map_eq_some_iff.mp hr
    split
    · exact Or.inl rfl
    · next hne => exact hc.stale k r₀ hr₀ fun h => hne (Option.some.inj (ht.symm.trans h))
  current k hk := nomatch hk

lemma cancelTimer_line {t : ℕ} (hl : s.line = [.frame]) : (s.cancelTimer t).line = [.frame] := by
  simp [State.cancelTimer, leave, hl]

lemma Calm.armTimer (hc : s.Calm) (ht : s.timer = none) : s.armTimer.Calm where
  closed := hc.closed
  handlers := hc.handlers
  abandoned := hc.abandoned
  primed := hc.primed
  stale k r hr hk := by
    have hr : (s.timers ++ [⟨s.epoch, false, .sleeping⟩])[k]? = some r := hr
    rcases Nat.lt_or_ge k s.timers.length with hlt | hge
    · rw [List.getElem?_append_left hlt] at hr
      exact hc.stale k r hr (by simp [ht])
    · rw [List.getElem?_append_right hge] at hr
      have hkn : k = s.timers.length := by
        have := (List.getElem?_eq_some_iff.mp hr).1
        simp only [List.length_singleton] at this
        omega
      exact absurd (congrArg some hkn.symm) hk
  current k hk := by
    obtain rfl : s.timers.length = k := Option.some.inj hk
    exact ⟨.sleeping, List.getElem?_concat_length, by simp, Or.inl rfl⟩

/-- The frame lets go of the lock. -/
lemma Calm.done_frame (hc : s.Calm) (hl : s.line = [.frame]) :
    (s.done .frame).Calm where
  closed := hc.closed
  handlers := hc.handlers
  abandoned := rfl
  primed := hc.primed
  stale := hc.stale
  current k hk := by
    obtain ⟨stage, hget, hover, hs⟩ := hc.current k hk
    refine ⟨stage, hget, hover, hs.imp_right fun h => ?_⟩
    rw [hl] at h
    cases List.mem_singleton.mp h

lemma done_frame_resting (hl : s.line = [.frame]) (ht : s.timer = none ↔ s.held = []) :
    (s.done .frame).Place := .resting (congrArg List.tail hl) rfl rfl ht

lemma chain_done_frame (hl : s.line = [.frame]) :
    (s.done .frame).chain = s.held.map Frame.stamp :=
  chain_resting (congrArg List.tail hl) rfl

lemma stage_done_frame (hl : s.line = [.frame]) : (s.done .frame).stage = 4 :=
  if_pos (congrArg List.tail hl)

lemma helper_resting {k : ℕ} (hl : s.line = []) (ht : s.timer = some k) : s.helper = .timer k := by
  rw [helper, hl]
  simp [ht]

/-- Audio that is held. -/
def hold (s : State) (f : Frame) : State :=
  { s with process := some .taken, held := s.held ++ [f], heldMs := s.heldMs + f.ms }

lemma Calm.hold {f : Frame} (hc : s.Calm) (hprim : s.priming = true) : (s.hold f).Calm where
  closed := hc.closed
  handlers := hc.handlers
  abandoned := hc.abandoned
  primed h := by
    have h : s.priming = false := h
    rw [hprim] at h
    cases h
  stale := hc.stale
  current := hc.current

/-- Audio that has the lock. -/
lemma served_audio {f : Frame} (hc : s.Calm) (hl : s.line = [.frame]) (hw : s.work = .granted)
    (hp : s.process = some (.audio f)) (ht : s.timer = none ↔ s.held = []) :
    Served s (s.audio leadMs f) := by
  have hchain : s.chain = s.held.map Frame.stamp ++ [f.stamp] := chain_granted hl hw hp
  have hheld : (s.hold f).held.map Frame.stamp = s.chain := by
    rw [hchain, State.hold, List.map_append, List.map_singleton]
  have hne : (s.hold f).held ≠ [] := by simp [State.hold]
  have hemptied : ∀ s₁ s' : State, s₁.held = (s.hold f).held → s₁.out = s.out →
      s₁.arrived = s.arrived → Emptied s₁ s' → Served s s' := by
    intro s₁ s' h1 h2 h3 he
    refine ⟨he.calm, he.place, ?_, ?_, he.arrived.trans h3, ?_, fun _ _ => Or.inl ?_⟩
    · rw [he.chain, h1, hheld]
    · rw [audioOut, he.out, h2]
      rfl
    · rw [he.stage]
      omega
    · rw [he.stage]
      omega
  have hrested : ∀ s₁ : State, s₁.Calm → s₁.line = [.frame] → s₁.held = (s.hold f).held →
      s₁.out = s.out → s₁.arrived = s.arrived → s₁.timer ≠ none →
      (∀ k, s.timer = some k → s₁.timer = some k) → Served s (s₁.done .frame) := by
    intro s₁ hc₁ hl₁ h1 h2 h3 h4 h5
    have hiff : s₁.timer = none ↔ s₁.held = [] :=
      ⟨fun h => absurd h h4, fun h => absurd (h1.symm.trans h) hne⟩
    refine ⟨hc₁.done_frame hl₁, done_frame_resting hl₁ hiff, ?_, ?_, h3, ?_,
      fun k hk => Or.inr ⟨stage_done_frame hl₁, helper_resting (congrArg List.tail hl₁) (h5 k hk)⟩⟩
    · rw [chain_done_frame hl₁, h1, hheld]
    · rw [audioOut, done_out, h2]
      rfl
    · rw [stage_done_frame hl₁]
      omega
  unfold State.audio
  dsimp only
  rw [if_neg (by simp [hc.closed])]
  split
  · next hprim =>
    have hc₁ := hc.hold (f := f) hprim
    split
    · split
      · next t htimer =>
        refine hemptied ((s.hold f).cancelTimer t) _ rfl rfl rfl ?_
        exact flush_frame (hc₁.cancelTimer htimer) (cancelTimer_line hl) rfl trivial rfl hne
      · next htimer =>
        refine hemptied (s.hold f) _ rfl rfl rfl ?_
        exact flush_frame hc₁ hl rfl trivial htimer hne
    · split
      · next t htimer =>
        exact hrested (s.hold f) hc₁ hl rfl rfl rfl (by simp [State.hold, htimer]) fun _ h => h
      · next htimer =>
        refine hrested (s.hold f).armTimer (hc₁.armTimer htimer) hl rfl rfl rfl nofun ?_
        intro k hk
        rw [htimer] at hk
        cases hk
  · next hprim =>
    have hprim : s.priming = false := by simpa using hprim
    have hnil := hc.primed hprim
    refine ⟨⟨hc.closed, hc.handlers, hc.abandoned, fun _ => hnil, hc.stale, hc.current⟩,
      .passing f.stamp hl rfl rfl (ht.mpr hnil) hnil, ?_, rfl, rfl, ?_, fun _ _ => Or.inl ?_⟩
    · rw [hchain, State.chain, later, waiting, hnil]
      simp [hand]
    · simp [stage]
    · simp [stage]

/-- A marker that has flushed is pushed. -/
lemma flushed_marker {m : Marker} {n : ℕ} (hc : s.Calm) (hl : s.line = [.frame])
    (hp : s.process = some (.marker m n)) (hm : m ≠ .endFrame) (ht : s.timer = none)
    (hh : s.held = []) :
    (s.flushed .frame).Calm ∧ (s.flushed .frame).Place ∧ (s.flushed .frame).chain = [] ∧
      (s.flushed .frame).out = s.out ∧ (s.flushed .frame).arrived = s.arrived ∧
      (s.flushed .frame).stage = 1 := by
  have hflushed : s.flushed .frame = { s with
      epoch := if m = .responseStart then s.epoch + 1 else s.epoch
      priming := if m = .responseStart then true else s.priming
      work := .pushing (.marker n) } := by
    simp [flushed, hp, hm]
  rw [hflushed]
  refine ⟨⟨hc.closed, hc.handlers, hc.abandoned, fun _ => hh, hc.stale, fun k hk => ?_⟩,
    .marking m n n hl rfl hp ht hh, ?_, rfl, rfl, rfl⟩
  · exact nomatch ht.symm.trans hk
  · simp [State.chain, hand, later, waiting, hh, hp]

/-- A marker that has the lock. -/
lemma served_marker {m : Marker} {n : ℕ} (hc : s.Calm) (hl : s.line = [.frame])
    (hw : s.work = .granted) (hp : s.process = some (.marker m n)) (hm : m ≠ .endFrame)
    (ht : s.timer = none ↔ s.held = []) : Served s s.marker := by
  have hchain : s.chain = s.held.map Frame.stamp := by
    rw [chain_granted hl hw hp]
    exact List.append_nil _
  unfold State.marker
  split
  · next t htimer =>
    have hne : s.held ≠ [] := fun h => (nomatch htimer.symm.trans (ht.mpr h))
    have hc₁ := hc.cancelTimer htimer
    have hline : (s.cancelTimer t).line = [.frame] := cancelTimer_line hl
    have hstage : ({ s.cancelTimer t with work := .stopping t } : State).stage < 4 := by
      simp only [stage]
      split <;> omega
    refine ⟨⟨hc₁.closed, hc₁.handlers, hc₁.abandoned, hc₁.primed, hc₁.stale, hc₁.current⟩,
      .stopping t m n hline rfl hp hm rfl hne, ?_, rfl, rfl, hstage.trans (by omega),
      fun _ _ => Or.inl hstage⟩
    rw [hchain, State.chain, later, waiting]
    simp [hand, State.cancelTimer, leave, hp]
  · next htimer =>
    have hnil := ht.mp htimer
    have hflush : s.flush .frame s.epoch =
        ({ s with held := [], heldMs := 0, priming := false } : State).flushed .frame := by
      simp [flush, flushOn, hnil]
    rw [hflush]
    obtain ⟨h1, h2, h3, h4, h5, h6⟩ := flushed_marker
      (s := { s with held := [], heldMs := 0, priming := false })
      ⟨hc.closed, hc.handlers, hc.abandoned, fun _ => rfl, hc.stale, hc.current⟩ hl hp hm htimer rfl
    refine ⟨h1, h2, ?_, ?_, h5, ?_, fun _ _ => Or.inl ?_⟩
    · rw [h3, hchain, hnil]
      rfl
    · rw [audioOut, h4]
      rfl
    · rw [h6]
      omega
    · rw [h6]
      omega

/-- **The frame has the lock**. -/
lemma served_frame {item : Item} (hc : s.Calm) (hl : s.line = [.frame]) (hw : s.work = .granted)
    (hp : s.process = some item) (hi : item.Asks) (ht : s.timer = none ↔ s.held = []) :
    Served s (s.locked leadMs .frame) := by
  cases item with
  | audio f =>
    have h : s.locked leadMs .frame = s.audio leadMs f := by simp [locked, hp]
    exact h ▸ served_audio hc hl hw hp ht
  | taken => exact hi.elim
  | marker m n =>
    have h : s.locked leadMs .frame = s.marker := by simp [locked, hp]
    exact h ▸ served_marker hc hl hw hp hi ht

/-! ### Frames that arrive -/

lemma Calm.arrived {item : Item} (hc : s.Calm) : ((s.accept item).join .frame).Calm where
  closed := hc.closed
  handlers := hc.handlers
  abandoned := hc.abandoned
  primed := hc.primed
  stale := hc.stale
  current k hk := by
    obtain ⟨stage, hget, hover, hs⟩ := hc.current k hk
    exact ⟨stage, hget, hover, hs.imp_right fun h => List.mem_append_left _ h⟩

lemma accept_arrived (s : State) (item : Item) :
    (s.accept item).arrived = s.arrived ++ item.stamps := by
  cases item <;> simp [accept, Item.stamps]

lemma Goes.stay {a : Action} (ha : ∀ emitted, a ≠ .resume s.helper emitted) : Goes s a s :=
  .stays [] (List.append_nil _).symm rfl (List.append_nil _).symm fun _ => ⟨rfl, rfl, ha⟩

/-- A frame arrives. -/
theorem next_arrive {item : Item} {a : Action} (hc : s.Calm) (hp : s.Place) (hi : item.Asks)
    (ha : ∀ emitted, a ≠ .resume s.helper emitted) : Next s a (s.arrive leadMs item) := by
  have hbusy : s.process ≠ none → Next s a (s.arrive leadMs item) := by
    intro hne
    have hsame : s.arrive leadMs item = s := by
      rw [arrive, if_neg (by simpa [Option.isNone_iff_eq_none] using hne)]
    rw [hsame]
    exact ⟨hc, hp, .stay ha⟩
  cases hp with
  | resting hl hw hnone ht =>
    have hserve : s.arrive leadMs item = ((s.accept item).join .frame).locked leadMs .frame := by
      simp [arrive, hnone, request, accept, hl]
    have hline : ((s.accept item).join .frame).line = [.frame] := by
      show s.line ++ _ = _
      rw [hl]
      rfl
    have hs : Served ((s.accept item).join .frame) (s.arrive leadMs item) :=
      hserve ▸ served_frame hc.arrived hline hw rfl hi ht
    have hchain : (s.arrive leadMs item).chain = s.chain ++ item.stamps := by
      rw [hs.chain, chain_granted hline hw rfl, chain_resting hl hw]
      rfl
    have harrived := hs.arrived.trans (accept_arrived s item)
    refine ⟨hs.calm, hs.place, ?_⟩
    cases htimer : s.timer with
    | none =>
      have hempty : s.chain = [] := by rw [chain_resting hl hw, ht.mp htimer, List.map_nil]
      exact .advances _ hchain hs.out harrived fun h => absurd hempty h
    | some k =>
      have hstage : s.stage = 4 := by simp [stage, hw, hl]
      rcases hs.timed k htimer with hlt | ⟨heq, hhelper⟩
      · exact .advances _ hchain hs.out harrived fun _ => hstage ▸ hlt
      · refine .stays _ hchain hs.out harrived fun _ => ⟨heq.trans hstage.symm, ?_, ha⟩
        rw [hhelper, helper_resting hl htimer]
  | flushing k f frames hl hw hnone ht hh =>
    have hjoin : s.arrive leadMs item = (s.accept item).join .frame := by
      simp [arrive, hnone, request, accept, hl]
    have hline : ((s.accept item).join .frame).line = [.timer k, .frame] := by
      show s.line ++ _ = _
      rw [hl]
      rfl
    rw [hjoin]
    refine ⟨hc.arrived, .awaited k f frames item hline hw rfl hi ht hh,
      .stays item.stamps ?_ rfl (accept_arrived s item) fun _ => ⟨?_, ?_, ha⟩⟩
    · rw [chain_awaited hline hw rfl hh, chain_flushing hl hw hh]
    · simp [stage, join, accept, hw]
    · rw [helper, helper, hline, hl]
      simp [join, accept, hw]
  | awaited k f frames item' hl hw hp => exact hbusy (by simp [hp])
  | granted item' hl hw hp => exact hbusy (by simp [hp])
  | stopping t m n hl hw hp => exact hbusy (by simp [hp])
  | emptying f frames item' hl hw hp => exact hbusy (by simp [hp])
  | passing n hl hw hp => exact hbusy (by simp [hp])
  | marking m n n' hl hw hp => exact hbusy (by simp [hp])

/-! ### The task with the lock goes on -/

lemma flushOn_cons {t : Task} {f : Frame} {frames : List Frame} (hc : s.Calm) :
    s.flushOn t s.epoch (f :: frames) = { s with work := .flushing (f :: frames) s.epoch } := by
  simp [flushOn, hc.closed]

/-- After one frame the flush goes on with the next. -/
lemma flushOn_emit_cons {t : Task} {f f' : Frame} {frames : List Frame} (hc : s.Calm) :
    (s.emit (.audio f.stamp)).flushOn t s.epoch (f' :: frames) =
      { s.emit (.audio f.stamp) with work := .flushing (f' :: frames) s.epoch } :=
  flushOn_cons (s := s.emit (.audio f.stamp)) ⟨hc.closed, hc.handlers, hc.abandoned, hc.primed,
    hc.stale, hc.current⟩

lemma flushOn_nil (s : State) (t : Task) (epoch : ℕ) : s.flushOn t epoch [] = s.flushed t := by
  simp [flushOn]

lemma Calm.emit (hc : s.Calm) (o : Out) : (s.emit o).Calm :=
  ⟨hc.closed, hc.handlers, hc.abandoned, hc.primed, hc.stale, hc.current⟩

lemma Calm.setWork (hc : s.Calm) (w : Work) : ({ s with work := w } : State).Calm :=
  ⟨hc.closed, hc.handlers, hc.abandoned, hc.primed, hc.stale, hc.current⟩

lemma audioOut_emit_audio (s : State) (n : ℕ) :
    (s.emit (.audio n)).audioOut = s.audioOut ++ [n] := by
  have hfilter : [Out.audio n].filter Out.isAudio = [.audio n] := rfl
  rw [audioOut, State.emit, List.filter_append, hfilter, List.map_append]
  rfl

lemma audioOut_emit_marker (s : State) (n : ℕ) : (s.emit (.marker n)).audioOut = s.audioOut := by
  have hfilter : [Out.marker n].filter Out.isAudio = [] := rfl
  rw [audioOut, State.emit, List.filter_append, hfilter, List.append_nil]
  rfl

/-- The timer that `_timer` names ends. -/
lemma Calm.done_timer {k : ℕ} (hc : s.Calm) (ht : s.timer = some k) : (s.done (.timer k)).Calm where
  closed := hc.closed
  handlers := hc.handlers
  abandoned := hc.abandoned
  primed := hc.primed
  stale j r hr _ := by
    have hr : (s.timers.modify k fun r => { r with stage := .over })[j]? = some r := hr
    rw [List.getElem?_modify] at hr
    obtain ⟨r₀, hr₀, rfl⟩ := Option.map_eq_some_iff.mp hr
    split
    · exact Or.inr rfl
    · next hne => exact hc.stale j r₀ hr₀ fun h => hne (Option.some.inj (ht.symm.trans h))
  current j hj := by
    have hj : (if s.timer = some k then none else s.timer) = some j := hj
    rw [if_pos ht] at hj
    cases hj

lemma done_timer_timer {k : ℕ} (ht : s.timer = some k) : (s.done (.timer k)).timer = none :=
  if_pos ht

section GoOn

variable {a : Action}

lemma next_flushing {k : ℕ} {f : Frame} {frames : List Frame} (hc : s.Calm)
    (hl : s.line = [.timer k]) (hw : s.work = .flushing (f :: frames) s.epoch)
    (hp : s.process = none) (ht : s.timer = some k) (hh : s.held = []) :
    Next s a (s.goOn leadMs (.timer k)) := by
  have hchain := chain_flushing hl hw hh
  have hgo : s.goOn leadMs (.timer k) =
      (s.emit (.audio f.stamp)).flushOn (.timer k) s.epoch frames := by
    simp [goOn, hw]
  rw [hgo]
  cases frames with
  | nil =>
    have hdone : (s.emit (.audio f.stamp)).flushOn (.timer k) s.epoch [] =
        (s.emit (.audio f.stamp)).done (.timer k) := by
      rw [flushOn_nil]
      rfl
    have hline : ((s.emit (.audio f.stamp)).done (.timer k)).line = [] := congrArg List.tail hl
    rw [hdone]
    refine ⟨(hc.emit _).done_timer ht, .resting hline rfl hp ?_, .emits f.stamp ?_ ?_ rfl⟩
    · exact ⟨fun _ => hh, fun _ => done_timer_timer ht⟩
    · rw [hchain, chain_resting hline rfl]
      exact congrArg (fun l => f.stamp :: List.map Frame.stamp l) hh.symm
    · exact audioOut_emit_audio s f.stamp
  | cons f' frames =>
    rw [flushOn_emit_cons hc]
    refine ⟨(hc.emit _).setWork _, .flushing k f' frames hl rfl hp ht hh, .emits f.stamp ?_ ?_ rfl⟩
    · exact hchain.trans (congrArg (f.stamp :: ·) (chain_flushing
        (s := { s.emit (.audio f.stamp) with work := .flushing (f' :: frames) s.epoch }) hl rfl
        hh).symm)
    · exact audioOut_emit_audio s f.stamp

lemma next_awaited {k : ℕ} {f : Frame} {frames : List Frame} {item : Item} (hc : s.Calm)
    (hl : s.line = [.timer k, .frame]) (hw : s.work = .flushing (f :: frames) s.epoch)
    (hp : s.process = some item) (hi : item.Asks) (ht : s.timer = some k) (hh : s.held = []) :
    Next s a (s.goOn leadMs (.timer k)) := by
  have hchain := chain_awaited hl hw hp hh
  have hgo : s.goOn leadMs (.timer k) =
      (s.emit (.audio f.stamp)).flushOn (.timer k) s.epoch frames := by
    simp [goOn, hw]
  rw [hgo]
  cases frames with
  | nil =>
    have hdone : (s.emit (.audio f.stamp)).flushOn (.timer k) s.epoch [] =
        (s.emit (.audio f.stamp)).done (.timer k) := by
      rw [flushOn_nil]
      rfl
    have hline : ((s.emit (.audio f.stamp)).done (.timer k)).line = [.frame] :=
      congrArg List.tail hl
    rw [hdone]
    refine ⟨(hc.emit _).done_timer ht, .granted item hline rfl hp hi (done_timer_timer ht) hh,
      .emits f.stamp ?_ ?_ rfl⟩
    · rw [hchain, chain_granted hline rfl hp]
      exact congrArg (fun l => f.stamp :: (List.map Frame.stamp l ++ item.stamps)) hh.symm
    · exact audioOut_emit_audio s f.stamp
  | cons f' frames =>
    rw [flushOn_emit_cons hc]
    refine ⟨(hc.emit _).setWork _, .awaited k f' frames item hl rfl hp hi ht hh,
      .emits f.stamp ?_ ?_ rfl⟩
    · exact hchain.trans (congrArg (f.stamp :: ·) (chain_awaited
        (s := { s.emit (.audio f.stamp) with work := .flushing (f' :: frames) s.epoch }) hl rfl
        hp hh).symm)
    · exact audioOut_emit_audio s f.stamp

lemma next_granted {item : Item} (hc : s.Calm) (hl : s.line = [.frame]) (hw : s.work = .granted)
    (hp : s.process = some item) (hi : item.Asks) (ht : s.timer = none) (hh : s.held = []) :
    Next s a (s.goOn leadMs .frame) := by
  have hgo : s.goOn leadMs .frame = s.locked leadMs .frame := by simp [goOn, hw]
  have hs : Served s (s.locked leadMs .frame) :=
    served_frame hc hl hw hp hi ⟨fun _ => hh, fun _ => ht⟩
  rw [hgo]
  refine ⟨hs.calm, hs.place, .advances [] ?_ hs.out ?_ fun _ => ?_⟩
  · rw [hs.chain, List.append_nil]
  · rw [hs.arrived, List.append_nil]
  · exact hs.stage.trans_eq (by simp [stage, hw, hl])

lemma next_stopping {t : ℕ} {m : Marker} {n : ℕ} {emitted : Bool} (hc : s.Calm)
    (hl : s.line = [.frame]) (hw : s.work = .stopping t) (hp : s.process = some (.marker m n))
    (hm : m ≠ .endFrame) (ht : s.timer = none) (hh : s.held ≠ []) :
    Next s (.resume .frame emitted) (s.goOn leadMs .frame) := by
  have hgo : s.goOn leadMs .frame = if s.isOver t then s.flush .frame s.epoch else s := by
    simp [goOn, hw]
  rw [hgo]
  split
  · next hover =>
    have he := flush_frame hc hl hp hm ht hh
    refine ⟨he.calm, he.place, .advances [] ?_ ?_ ?_ fun _ => ?_⟩
    · rw [he.chain, List.append_nil, State.chain, later, waiting, hl, hp]
      simp [hand, hw]
    · rw [audioOut, he.out]
      rfl
    · rw [he.arrived, List.append_nil]
    · rw [he.stage]
      simp [stage, hw, hover]
  · next hover =>
    have hhelper : s.helper = .timer t := by simp [helper, hl, hw, hover]
    refine ⟨hc, .stopping t m n hl hw hp hm ht hh, .stay fun _ h => ?_⟩
    rw [hhelper] at h
    cases h

lemma next_emptying {f : Frame} {frames : List Frame} {item : Item} (hc : s.Calm)
    (hl : s.line = [.frame]) (hw : s.work = .flushing (f :: frames) s.epoch)
    (hp : s.process = some item) (hi : item.Flushes) (ht : s.timer = none) (hh : s.held = []) :
    Next s a (s.goOn leadMs .frame) := by
  have hchain := chain_emptying hl hw hp hi hh
  have hgo : s.goOn leadMs .frame = (s.emit (.audio f.stamp)).flushOn .frame s.epoch frames := by
    simp [goOn, hw]
  have hout := audioOut_emit_audio s f.stamp
  rw [hgo]
  cases frames with
  | nil =>
    rw [flushOn_nil]
    cases item with
    | audio f => exact hi.elim
    | taken =>
      have hdone : (s.emit (.audio f.stamp)).flushed .frame =
          (s.emit (.audio f.stamp)).done .frame := by
        simp [flushed, State.emit, hp]
      rw [hdone]
      refine ⟨(hc.emit _).done_frame hl, done_frame_resting hl ⟨fun _ => hh, fun _ => ht⟩,
        .emits f.stamp ?_ hout rfl⟩
      rw [hchain, chain_done_frame (s := s.emit (.audio f.stamp)) hl]
      exact congrArg (fun l => f.stamp :: List.map Frame.stamp l) hh.symm
    | marker m n =>
      obtain ⟨h1, h2, h3, h4, h5, -⟩ := flushed_marker (hc.emit (.audio f.stamp)) hl hp hi ht hh
      refine ⟨h1, h2, .emits f.stamp ?_ ?_ h5⟩
      · rw [hchain, h3]
        rfl
      · rw [audioOut, h4]
        exact hout
  | cons f' frames =>
    rw [flushOn_emit_cons hc]
    refine ⟨(hc.emit _).setWork _, .emptying f' frames item hl rfl hp hi ht hh,
      .emits f.stamp ?_ hout rfl⟩
    exact hchain.trans (congrArg (f.stamp :: ·) (chain_emptying
      (s := { s.emit (.audio f.stamp) with work := .flushing (f' :: frames) s.epoch }) hl rfl
      hp hi hh).symm)

lemma next_passing {n : ℕ} (hc : s.Calm) (hl : s.line = [.frame])
    (hw : s.work = .pushing (.audio n)) (hp : s.process = some .taken) (ht : s.timer = none)
    (hh : s.held = []) : Next s a (s.goOn leadMs .frame) := by
  have hgo : s.goOn leadMs .frame = (s.emit (.audio n)).done .frame := by simp [goOn, hw]
  rw [hgo]
  refine ⟨(hc.emit _).done_frame hl, done_frame_resting hl ⟨fun _ => hh, fun _ => ht⟩,
    .emits n ?_ (audioOut_emit_audio s n) rfl⟩
  rw [chain_done_frame (s := s.emit (.audio n)) hl, chain, hand_audio hw, later, waiting, hp, hh]
  simp [State.emit, hh]

lemma next_marking {m : Marker} {n n' : ℕ} (hc : s.Calm) (hl : s.line = [.frame])
    (hw : s.work = .pushing (.marker n)) (hp : s.process = some (.marker m n'))
    (ht : s.timer = none) (hh : s.held = []) : Next s a (s.goOn leadMs .frame) := by
  have hgo : s.goOn leadMs .frame = (s.emit (.marker n)).done .frame := by simp [goOn, hw]
  have hchain : s.chain = [] := by simp [chain, hand, hw, later, waiting, hp, hh]
  rw [hgo]
  refine ⟨(hc.emit _).done_frame hl, done_frame_resting hl ⟨fun _ => hh, fun _ => ht⟩,
    .advances [] ?_ (audioOut_emit_marker s n) (List.append_nil _).symm (absurd hchain)⟩
  rw [hchain, chain_done_frame (s := s.emit (.marker n)) hl]
  exact congrArg (List.map Frame.stamp) hh

/-- **The task with the lock goes on**. -/
lemma next_goOn {t : Task} {emitted : Bool} (hc : s.Calm) (hp : s.Place)
    (hh : s.line.head? = some t) : Next s (.resume t emitted) (s.goOn leadMs t) := by
  cases hp with
  | resting hl =>
    rw [hl] at hh
    cases hh
  | flushing k f frames hl hw hp ht hheld =>
    rw [hl] at hh
    cases hh
    exact next_flushing hc hl hw hp ht hheld
  | awaited k f frames item hl hw hp hi ht hheld =>
    rw [hl] at hh
    cases hh
    exact next_awaited hc hl hw hp hi ht hheld
  | granted item hl hw hp hi ht hheld =>
    rw [hl] at hh
    cases hh
    exact next_granted hc hl hw hp hi ht hheld
  | stopping j m n hl hw hp hm ht hheld =>
    rw [hl] at hh
    cases hh
    exact next_stopping hc hl hw hp hm ht hheld
  | emptying f frames item hl hw hp hi ht hheld =>
    rw [hl] at hh
    cases hh
    exact next_emptying hc hl hw hp hi ht hheld
  | passing n hl hw hp ht hheld =>
    rw [hl] at hh
    cases hh
    exact next_passing hc hl hw hp ht hheld
  | marking m n n' hl hw hp ht hheld =>
    rw [hl] at hh
    cases hh
    exact next_marking hc hl hw hp ht hheld

end GoOn

/-! ### Timers -/

/-- A timer at the head of the line is the one that `_timer` names. -/
lemma Place.head_timer {k : ℕ} (hp : s.Place) (hh : .timer k ∈ s.line) : s.timer = some k := by
  cases hp with
  | resting hl => simp [hl] at hh
  | flushing j f frames hl hw hp ht =>
    rw [hl] at hh
    cases List.mem_singleton.mp hh
    exact ht
  | awaited j f frames item hl hw hp hi ht =>
    rw [hl] at hh
    rcases List.mem_cons.mp hh with h | h
    · cases h
      exact ht
    · cases List.mem_singleton.mp h
  | granted item hl => simp [hl] at hh
  | stopping j m n hl => simp [hl] at hh
  | emptying f frames item hl => simp [hl] at hh
  | passing n hl => simp [hl] at hh
  | marking m n n' hl => simp [hl] at hh

lemma Calm.setTimer_over {k : ℕ} (hc : s.Calm) (hk : s.timer ≠ some k) :
    (s.setTimer k .over).Calm where
  closed := hc.closed
  handlers := hc.handlers
  abandoned := hc.abandoned
  primed := hc.primed
  stale j r hr hj := by
    have hr : (s.timers.modify k fun r => { r with stage := .over })[j]? = some r := hr
    rw [List.getElem?_modify] at hr
    obtain ⟨r₀, hr₀, rfl⟩ := Option.map_eq_some_iff.mp hr
    split
    · exact Or.inr rfl
    · exact hc.stale j r₀ hr₀ hj
  current j hj := by
    obtain ⟨stage, hget, hover, hs⟩ := hc.current j hj
    refine ⟨stage, ?_, hover, hs⟩
    have hne : k ≠ j := fun h => hk (h ▸ hj)
    have hmod : (s.timers.modify k fun r => { r with stage := .over })[j]? = s.timers[j]? := by
      simp [hne]
    exact hmod.trans hget

lemma Place.setTimer {k : ℕ} (hp : s.Place) : (s.setTimer k .over).Place := by
  cases hp with
  | resting hl hw hp ht => exact .resting hl hw hp ht
  | flushing j f frames hl hw hp ht hh => exact .flushing j f frames hl hw hp ht hh
  | awaited j f frames item hl hw hp hi ht hh => exact .awaited j f frames item hl hw hp hi ht hh
  | granted item hl hw hp hi ht hh => exact .granted item hl hw hp hi ht hh
  | stopping j m n hl hw hp hm ht hh => exact .stopping j m n hl hw hp hm ht hh
  | emptying f frames item hl hw hp hi ht hh => exact .emptying f frames item hl hw hp hi ht hh
  | passing n hl hw hp ht hh => exact .passing n hl hw hp ht hh
  | marking m n n' hl hw hp ht hh => exact .marking m n n' hl hw hp ht hh

lemma isOver_setTimer (s : State) (k j : ℕ) :
    (s.setTimer k .over).isOver j = (decide (k = j) || s.isOver j) := by
  simp only [isOver, State.setTimer, List.getElem?_modify]
  by_cases h : k = j
  · subst h
    cases s.timers[k]? <;> simp
  · cases s.timers[j]? <;> simp [h]

lemma isOver_of_stopping {j : ℕ} (hw : s.work = .stopping j) :
    s.stage = if s.isOver j then 2 else 3 := by rw [stage, hw]

/-- The end of a timer that no task waits for. -/
lemma helper_setTimer {k : ℕ} (hw : s.work ≠ .stopping k) :
    (s.setTimer k .over).helper = s.helper := by
  have hline : (s.setTimer k .over).line = s.line := rfl
  have hwork : (s.setTimer k .over).work = s.work := rfl
  have htimer : (s.setTimer k .over).timer = s.timer := rfl
  rw [helper, helper, hline, hwork, htimer]
  cases hl : s.line with
  | nil => rfl
  | cons t line =>
    cases hw' : s.work with
    | stopping j =>
      have hne : k ≠ j := fun h => hw (h ▸ hw')
      simp [isOver_setTimer, hne]
    | granted => rfl
    | flushing frames epoch => rfl
    | pushing o => rfl

lemma stage_setTimer {k : ℕ} (hw : s.work ≠ .stopping k) :
    (s.setTimer k .over).stage = s.stage := by
  have hline : (s.setTimer k .over).line = s.line := rfl
  have hwork : (s.setTimer k .over).work = s.work := rfl
  rw [stage, stage, hline, hwork]
  cases hw' : s.work with
  | stopping j =>
    have hne : k ≠ j := fun h => hw (h ▸ hw')
    simp [isOver_setTimer, hne]
  | granted => rfl
  | flushing frames epoch => rfl
  | pushing o => rfl

/-- The helper is a timer only if a task waits for its end, or `_timer` names it. -/
lemma helper_ne_timer {k : ℕ} (hk : s.timer ≠ some k) (hw : s.work ≠ .stopping k)
    (hnot : .timer k ∉ s.line) : s.helper ≠ .timer k := by
  unfold helper
  split
  · split
    · next j hj =>
      rintro ⟨⟩
      exact hk hj
    · nofun
  · next t line hl =>
    have ht : t ≠ .timer k := by
      rintro rfl
      exact hnot (hl ▸ List.mem_cons_self)
    split
    · next j hj =>
      split
      · exact ht
      · rintro ⟨⟩
        exact hw hj
    · exact ht

/-- A timer that was cancelled comes to its end. -/
lemma next_kill {k : ℕ} {emitted : Bool} (hc : s.Calm) (hp : s.Place)
    (hcan : s.isCancelled (.timer k) = true) :
    Next s (.resume (.timer k) emitted) (s.kill (.timer k) emitted) := by
  obtain ⟨r, hr, hrc, hro⟩ : ∃ r, s.timers[k]? = some r ∧ r.cancelled = true ∧ r.stage ≠ .over := by
    unfold isCancelled at hcan
    dsimp only at hcan
    split at hcan
    · next r hr => exact ⟨r, hr, by simpa using hcan⟩
    · cases hcan
  have hk : s.timer ≠ some k := by
    intro h
    obtain ⟨stage, hget, -⟩ := hc.current k h
    cases Option.some.inj (hr.symm.trans hget)
    cases hrc
  have hnot : .timer k ∉ s.line := fun h => hk (hp.head_timer h)
  have hhead : s.line.head? ≠ some (.timer k) := fun h => hnot (List.mem_of_head? h)
  have hkill : s.kill (.timer k) emitted = s.setTimer k .over := by
    rw [kill, if_neg hhead, ended, if_neg hk, List.erase_of_not_mem hnot]
    rfl
  have hover : s.isOver k = false := by simp [isOver, hr, hro]
  rw [hkill]
  refine ⟨hc.setTimer_over hk, hp.setTimer, ?_⟩
  by_cases hw : s.work = .stopping k
  · refine .advances [] (List.append_nil _).symm rfl (List.append_nil _).symm fun _ => ?_
    rw [isOver_of_stopping hw, hover,
      isOver_of_stopping (s := s.setTimer k .over) hw, isOver_setTimer]
    simp
  · refine .stays [] (List.append_nil _).symm rfl (List.append_nil _).symm fun _ => ?_
    refine ⟨stage_setTimer hw, helper_setTimer hw, fun emitted' h => ?_⟩
    exact helper_ne_timer hk hw hnot (Action.resume.inj h).1.symm

/-- The timer wakes up, and finds the lock free. -/
lemma next_wake {k : ℕ} {emitted : Bool} (hc : s.Calm) (hl : s.line = []) (hw : s.work = .granted)
    (hp : s.process = none) (hh : s.held ≠ []) (ht : s.timer = some k)
    (hget : s.timers[k]? = some ⟨s.epoch, false, .sleeping⟩) :
    Next s (.resume (.timer k) emitted)
      ((s.setTimer k .inLine).request leadMs (.timer k)) := by
  obtain ⟨f, frames, hf⟩ := List.exists_cons_of_ne_nil hh
  have hwoken : (s.setTimer k .inLine).timers[k]? = some ⟨s.epoch, false, .inLine⟩ := by
    simp [State.setTimer, hget]
  have hgo : (s.setTimer k .inLine).request leadMs (.timer k) =
      { (s.setTimer k .inLine).join (.timer k) with
        held := [], heldMs := 0, priming := false, work := .flushing (f :: frames) s.epoch } := by
    have hline : (s.setTimer k .inLine).line = [] := hl
    have hjoin : ((s.setTimer k .inLine).join (.timer k)).timers[k]? =
        some ⟨s.epoch, false, .inLine⟩ := hwoken
    rw [request, if_pos hline, locked, hjoin]
    simp [State.join, State.setTimer, flush, flushOn, hc.closed, hf]
  have hline : (s.setTimer k .inLine).line ++ [.timer k] = [.timer k] := by
    rw [show (s.setTimer k .inLine).line = [] from hl]
    rfl
  rw [hgo]
  refine ⟨⟨hc.closed, hc.handlers, hc.abandoned, fun _ => rfl, ?_, ?_⟩,
    .flushing k f frames hline rfl hp ht rfl, .advances [] ?_ rfl (List.append_nil _).symm ?_⟩
  · intro j r hr hj
    have hne : k ≠ j := fun h => hj (h ▸ ht)
    have hr : (s.setTimer k .inLine).timers[j]? = some r := hr
    exact hc.stale j r (by simpa [State.setTimer, hne] using hr) hj
  · intro j hj
    obtain rfl : k = j := Option.some.inj (ht.symm.trans hj)
    have hover : TimerStage.inLine ≠ .over := by decide
    exact ⟨.inLine, hwoken, hover, Or.inr (List.mem_append_right _ List.mem_cons_self)⟩
  · rw [List.append_nil, chain_resting hl hw, hf]
    exact chain_flushing (s := { (s.setTimer k .inLine).join (.timer k) with
        held := [], heldMs := 0, priming := false, work := .flushing (f :: frames) s.epoch })
      hline rfl rfl
  · intro _
    simp [stage, hw, hl]

/-- The task that has to go on is not one that can do nothing. -/
lemma Goes.idle {t : Task} {emitted : Bool} (ht : s.chain ≠ [] → s.helper ≠ t) :
    Goes s (.resume t emitted) s :=
  .stays [] (List.append_nil _).symm rfl (List.append_nil _).symm fun h =>
    ⟨rfl, rfl, fun _ he => ht h (Action.resume.inj he).1.symm⟩

/-- What a frame or a timer waits for is the lock, and then its helper is another. -/
lemma helper_of_waiting {t : Task} (hc : s.Calm) (hp : s.Place) (hcan : s.isCancelled t = false)
    (hhead : s.line.head? ≠ some t)
    (hsleep : ∀ k r, t = .timer k → s.timers[k]? = some r → r.stage ≠ .sleeping)
    (hchain : s.chain ≠ []) : s.helper ≠ t := by
  unfold helper
  split
  · next hl =>
    split
    · next k hk =>
      -- the timer sleeps
      rintro rfl
      obtain ⟨stage, hget, -, hs⟩ := hc.current k hk
      rcases hs with rfl | hs
      · exact hsleep k _ rfl hget rfl
      · simp [hl] at hs
    · next hnone =>
      -- nothing is held
      cases hp with
      | resting _ hw _ ht =>
        rw [chain_resting hl hw, ht.mp hnone] at hchain
        exact absurd rfl hchain
      | flushing j f frames hl' => simp [hl] at hl'
      | awaited j f frames item hl' => simp [hl] at hl'
      | granted item hl' => simp [hl] at hl'
      | stopping j m n hl' => simp [hl] at hl'
      | emptying f frames item hl' => simp [hl] at hl'
      | passing n hl' => simp [hl] at hl'
      | marking m n n' hl' => simp [hl] at hl'
  · next t' line hl =>
    have ht : t' ≠ t := fun h => hhead (by rw [hl, h]; rfl)
    split
    · next j hj =>
      split
      · exact ht
      · next hover =>
        rintro rfl
        cases hp with
        | stopping j' m n hl' hw _ _ hnone =>
          -- the timer whose end is awaited is cancelled
          obtain rfl : j = j' := Work.stopping.inj (hj.symm.trans hw)
          unfold isOver at hover
          split at hover
          · next r hr =>
            have hro : r.stage ≠ .over := by simpa using hover
            have hrc := (hc.stale j r hr (by simp [hnone])).resolve_right hro
            simp [isCancelled, hr, hrc, hro] at hcan
          · exact hover rfl
        | resting hl' => simp [hl] at hl'
        | flushing j f frames hl' hw => exact nomatch hj.symm.trans hw
        | awaited j f frames item hl' hw => exact nomatch hj.symm.trans hw
        | granted item hl' hw => exact nomatch hj.symm.trans hw
        | emptying f frames item hl' hw => exact nomatch hj.symm.trans hw
        | passing n hl' hw => exact nomatch hj.symm.trans hw
        | marking m n n' hl' hw => exact nomatch hj.symm.trans hw
    · exact ht

/-- A timer of the buffer that is not at the head of the line sleeps while the buffer rests. -/
lemma Place.of_sleeping {k : ℕ} (hp : s.Place) (ht : s.timer = some k)
    (hhead : s.line.head? ≠ some (.timer k)) :
    s.line = [] ∧ s.work = .granted ∧ s.process = none ∧ s.held ≠ [] := by
  cases hp with
  | resting hl hw hnone hiff =>
    exact ⟨hl, hw, hnone, fun h => nomatch ht.symm.trans (hiff.mpr h)⟩
  | flushing j f frames hl hw hnone ht' =>
    rw [hl, Option.some.inj (ht'.symm.trans ht)] at hhead
    exact absurd rfl hhead
  | awaited j f frames item hl hw hp hi ht' =>
    rw [hl, Option.some.inj (ht'.symm.trans ht)] at hhead
    exact absurd rfl hhead
  | granted item hl hw hp hi hnone => exact nomatch ht.symm.trans hnone
  | stopping j m n hl hw hp hm hnone => exact nomatch ht.symm.trans hnone
  | emptying f frames item hl hw hp hi hnone => exact nomatch ht.symm.trans hnone
  | passing n hl hw hp hnone => exact nomatch ht.symm.trans hnone
  | marking m n n' hl hw hp hnone => exact nomatch ht.symm.trans hnone

/-- **A task is resumed**. -/
lemma next_resume {t : Task} {emitted : Bool} (hc : s.Calm) (hp : s.Place) :
    Next s (.resume t emitted) (s.resume leadMs t emitted) := by
  unfold State.resume
  split
  · next hcan =>
    cases t with
    | frame => simp [isCancelled, hc.abandoned] at hcan
    | timer k => exact next_kill hc hp hcan
    | handler k => cases hcan
  · next hcan =>
    have hcan : s.isCancelled t = false := by simpa using hcan
    split
    · next hhead => exact next_goOn hc hp hhead
    · next hhead =>
      have hidle : (∀ k r, t = .timer k → s.timers[k]? = some r → r.stage ≠ .sleeping) →
          Next s (.resume t emitted) s :=
        fun h => ⟨hc, hp, .idle fun hchain => helper_of_waiting hc hp hcan hhead h hchain⟩
      cases t with
      | frame => exact hidle nofun
      | timer k =>
        dsimp only
        split
        · next e c hget =>
          obtain rfl : c = false := by simpa [isCancelled, hget] using hcan
          have ht : s.timer = some k := by
            by_contra hk
            rcases hc.stale k _ hget hk with h | h <;> cases h
          obtain ⟨stage, hget', -⟩ := hc.current k ht
          cases Option.some.inj (hget.symm.trans hget')
          obtain ⟨hl, hw, hnone, hheld⟩ := hp.of_sleeping ht hhead
          exact next_wake hc hl hw hnone hheld ht hget
        · next hne =>
          refine hidle ?_
          rintro j ⟨e, c, stage⟩ ⟨⟩ hr rfl
          exact hne e c hr
      | handler k =>
        have hnone : s.handlers[k]? = none := by simp [hc.handlers]
        simp only [hnone]
        exact hidle nofun

/-! ### Every step -/

/-- A frame that arrives is not a resumption. -/
lemma Next.step {a : Action} (hc : s.Calm) (hp : s.Place) (ha : a.Quiet) :
    Next s a (s.step leadMs a) := by
  cases a with
  | audio ms => exact next_arrive hc hp trivial nofun
  | marker m => exact next_arrive hc hp ha nofun
  | interrupt kind => exact ha.elim
  | abandon => exact ha.elim
  | resume t emitted => exact next_resume hc hp

lemma start_calm : start.Calm where
  closed := rfl
  handlers := rfl
  abandoned := rfl
  primed _ := rfl
  stale k r hr := by simp [start] at hr
  current k hk := nomatch hk

lemma start_place : start.Place := .resting rfl rfl rfl ⟨fun _ => rfl, fun _ => rfl⟩

lemma stage_le (s : State) : s.stage ≤ 5 := by
  unfold stage
  split
  · split <;> omega
  · split <;> omega
  · omega
  · omega

/-- Nothing is lost: what has left and what is still to leave is what has arrived. -/
structure Whole (s : State) : Prop where
  calm : s.Calm
  place : s.Place
  whole : s.audioOut ++ s.chain = s.arrived

lemma Whole.next {a : Action} (h : s.Whole) (hn : Next s a s') : s'.Whole := by
  refine ⟨hn.calm, hn.place, ?_⟩
  cases hn.goes with
  | emits x hchain hout harrived =>
    rw [hout, harrived, ← h.whole, hchain, List.append_assoc]
    rfl
  | advances l hchain hout harrived => rw [hchain, hout, harrived, ← h.whole, List.append_assoc]
  | stays l hchain hout harrived => rw [hchain, hout, harrived, ← h.whole, List.append_assoc]

lemma arrived_next {a : Action} (hn : Next s a s') : s.arrived <+: s'.arrived := by
  cases hn.goes with
  | emits x _ _ harrived => rw [harrived]
  | advances l _ _ harrived => exact harrived ▸ List.prefix_append _ _
  | stays l _ _ harrived => exact harrived ▸ List.prefix_append _ _

section Run

variable {acts : ℕ → Action}

lemma whole_run (hq : ∀ n, (acts n).Quiet) (n : ℕ) : (run (step leadMs) start acts n).Whole :=
  run_invariant (I := fun _ (s : State) => s.Whole) ⟨start_calm, start_place, rfl⟩
    (fun n _ h => h.next (.step h.calm h.place (hq n))) n

lemma next_run (hq : ∀ n, (acts n).Quiet) (n : ℕ) :
    Next (run (step leadMs) start acts n) (acts n) (run (step leadMs) start acts (n + 1)) :=
  .step (whole_run hq n).calm (whole_run hq n).place (hq n)

lemma arrived_run (hq : ∀ n, (acts n).Quiet) {n m : ℕ} (hm : n ≤ m) :
    (run (step leadMs) start acts n).arrived <+: (run (step leadMs) start acts m).arrived := by
  induction hm with
  | refl => exact List.prefix_refl _
  | step _ ih => exact ih.trans (arrived_next (next_run hq _))

/-- How far the audio is from its way out, up to the `total`th frame. -/
def remaining (total : ℕ) (s : State) : ℕ := 10 * (total - s.audioOut.length) + s.stage

/-- While some audio has not left, every step brings it nearer. -/
lemma nears {total : ℕ} {a : Action} (hlt : s.audioOut.length < total)
    (hchain : s.chain ≠ []) (hn : Next s a s') :
    remaining total s' < remaining total s ∨
      remaining total s' = remaining total s ∧ s'.helper = s.helper ∧
        ∀ emitted, a ≠ .resume s.helper emitted := by
  have hstage := s'.stage_le
  cases hn.goes with
  | emits x _ hout _ =>
    have hlen : s'.audioOut.length = s.audioOut.length + 1 := by simp [hout]
    left
    unfold remaining
    omega
  | advances l _ hout _ hfall =>
    left
    rw [remaining, remaining, hout]
    exact Nat.add_lt_add_left (hfall hchain) _
  | stays l _ hout _ hsame =>
    obtain ⟨hstage, hhelper, hnot⟩ := hsame hchain
    exact Or.inr ⟨by rw [remaining, remaining, hout, hstage], hhelper, hnot⟩

end Run

end State

/-- A run that nothing interrupts, in which every task goes on again and again. -/
structure QuietRun (acts : ℕ → Action) : Prop where
  quiet : ∀ n, (acts n).Quiet
  fair : ∀ t n, ∃ m, n ≤ m ∧ ∃ emitted, acts m = .resume t emitted

/-- **All that arrives leaves**. In a run that nothing interrupts, the audio that has left is at all
times the beginning of the audio that has arrived, and sooner or later it is all of it. -/
theorem all_leaves (leadMs : ℚ) (acts : ℕ → Action) (hr : QuietRun acts) (n : ℕ) :
    let at_ := run (State.step leadMs) State.start acts
    (at_ n).audioOut <+: (at_ n).arrived ∧ ∃ m, n ≤ m ∧ (at_ n).arrived <+: (at_ m).audioOut := by
  intro at_
  have hwhole : ∀ m, (at_ m).Whole := State.whole_run hr.quiet
  have hout : ∀ m, (at_ m).audioOut <+: (at_ m).arrived := fun m =>
    (hwhole m).whole ▸ List.prefix_append _ _
  refine ⟨hout n, ?_⟩
  let total := (at_ n).arrived.length
  have hnear : ∀ m, n ≤ m → ¬total ≤ (at_ m).audioOut.length →
      Nears (fun m => total ≤ (at_ m).audioOut.length) (fun m => (at_ m).remaining total)
        (fun m => (at_ m).helper) (fun m t => ∃ emitted, acts m = .resume t emitted) m := by
    intro m hm hgoal
    have hlt : (at_ m).audioOut.length < total := Nat.lt_of_not_le hgoal
    have hle : total ≤ (at_ m).arrived.length := (State.arrived_run hr.quiet hm).length_le
    have hchain : (at_ m).chain ≠ [] := by
      intro hnil
      have hlen := congrArg List.length (hwhole m).whole
      rw [hnil, List.append_nil] at hlen
      exact absurd (hlen ▸ hlt) (Nat.not_lt_of_le hle)
    rcases State.nears hlt hchain (State.next_run hr.quiet m) with h | ⟨h1, h2, h3⟩
    · exact .falls h
    · exact .waits h1 h2 fun ⟨emitted, h⟩ => h3 emitted h
  obtain ⟨m, hm, hlen⟩ := eventually_of_helper hr.fair hnear
  exact ⟨m, hm, List.prefix_of_prefix_length_le (State.arrived_run hr.quiet hm) (hout m) hlen⟩

/-- Every task in turn, each of them again and again. -/
def taskAt (k : ℕ) : Task :=
  if k % 3 = 0 then .frame else if k % 3 = 1 then .timer (k / 3) else .handler (k / 3)

/-- Two audio frames and a marker, and then all tasks in turn. -/
def heldAudio : ℕ → Action
  | 0 => .audio 20
  | 1 => .audio 20
  | 2 => .marker .responseEnd
  | n + 3 => .resume (taskAt n.unpair.1) false

lemma heldAudio_run : QuietRun heldAudio where
  quiet n := by
    match n with
    | 0 => trivial
    | 1 => trivial
    | 2 => exact Marker.noConfusion
    | _ + 3 => trivial
  fair t n := by
    obtain ⟨k, hk⟩ : ∃ k, taskAt k = t := by
      cases t with
      | frame => exact ⟨0, rfl⟩
      | timer k => exact ⟨3 * k + 1, by simp only [taskAt]; split_ifs <;> grind⟩
      | handler k => exact ⟨3 * k + 2, by simp only [taskAt]; split_ifs <;> grind⟩
    refine ⟨k.pair n + 3, (Nat.right_le_pair k n).trans (Nat.le_add_right _ 3), false, ?_⟩
    rw [heldAudio, Nat.unpair_pair, hk]

/-- The audio is held until the marker has stopped the timer and flushed it. -/
theorem heldAudio_leaves :
    let at_ := run (State.step 50) State.start heldAudio
    (at_ 3).arrived = [0, 1] ∧ (at_ 3).audioOut = [] ∧
      ∃ m, 3 ≤ m ∧ (at_ 3).arrived <+: (at_ m).audioOut :=
  ⟨by decide +kernel, by decide +kernel, (all_leaves 50 heldAudio heldAudio_run 3).2⟩

end Vauxr.OutputBuffer
