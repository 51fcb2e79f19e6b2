import Vauxr.Lib.Run
import Vauxr.Lib.Text

/-!
The ends of the turns of a realtime session (`realtime/session.py`): the queue of deferred ends, the
acknowledgements of the output and the credits of an idle bot that let them go, and the loops that
send them.

A loop is suspended while it sends; any other task may run meanwhile. What does not bear on the ends
is left out: the gates of transcripts and microphone, the voice activity profile, the state of the
device, and the ends that other parts of the session send on their own.
-/

namespace Vauxr.Voice.EndOfTurn

open Vauxr.Lib

/-- A deferred end. `turn` counts the completed turns, `media` is an agent turn's abort event. -/
structure End where
  turn : ℕ
  followUp : Bool
  hasAudio : Bool
  media : Option ℕ
  deriving DecidableEq

/-- `loops` are the drain loops that are suspended in a send. The rest is what has happened: the
agent turns begun, those whose completion was called, the ends queued, the ends sent, the
acknowledgements, the markers lost, and whether a teardown has succeeded. -/
structure Session where
  pendingEnds : List End
  agentMedia : List (ℕ × Text)
  drainedMedia : List ℕ
  botStopCredits : ℕ
  botSpeaking : ℕ
  drainTimer : Bool
  userBargedIn : Bool
  endedNotified : Bool
  closed : Bool
  loops : ℕ
  begun : ℕ
  called : List ℕ
  completed : List End
  sent : List (End × Bool)
  acked : List ℕ
  lost : List ℕ
  tornDown : Bool
  deriving DecidableEq

def Session.new : Session where
  pendingEnds := []
  agentMedia := []
  drainedMedia := []
  botStopCredits := 0
  botSpeaking := 0
  drainTimer := false
  userBargedIn := false
  endedNotified := false
  closed := false
  loops := 0
  begun := 0
  called := []
  completed := []
  sent := []
  acked := []
  lost := []
  tornDown := false

/-- What a step finds: whether the session owns the control channel, whether the socket is open. -/
structure Control where
  owns : Bool
  socket : Bool
  deriving DecidableEq

inductive Act
  /-- `_agent_turn_complete_callback`, with the active agent. -/
  | begin (active : Option Text)
  /-- `_on_turn_complete`. -/
  | complete (media : Option ℕ) (followUp hasAudio : Bool) (control : Control)
  | skipped
  | botStarted
  | botStopped
  /-- The drain timer fires. -/
  | idle (control : Control)
  | interruption
  /-- The end marker of a turn reaches the output tap. -/
  | outputDrained (media : ℕ) (control : Control)
  /-- The end marker is dropped by an interruption, or refused after a failed write. -/
  | lose (media : ℕ)
  /-- A send returns. -/
  | resume (control : Control)
  /-- The task of a loop is cancelled while it sends. -/
  | cancel
  | notifyEnded
  /-- `close` is called; its teardowns are at their end. -/
  | close
  | closed (ok : Bool)
  deriving DecidableEq

namespace Session

/-- `media in self._agent_media`. -/
def retains (s : Session) (media : ℕ) : Bool := s.agentMedia.any fun entry => entry.1 = media

def releaseAgentMedia (s : Session) : Option ℕ → Session
  | some media =>
    { s with
      drainedMedia := s.drainedMedia.filter (· ≠ media)
      agentMedia := s.agentMedia.filter (·.1 ≠ media) }
  | none => s

/-- Whether the first end may go, with the credit that it takes. -/
def letGo (s : Session) (e : End) : Option Session :=
  match e.media with
  | some media => if media ∈ s.drainedMedia then some s else none
  | none =>
    if e.hasAudio then
      if s.botStopCredits = 0 then none
      else some { s with botStopCredits := s.botStopCredits - 1 }
    else some s

/-- `follow_up`, behind the barge-in flag. -/
def bargedIn (s : Session) (followUp : Bool) : Session × Bool :=
  if s.userBargedIn then ({ s with userBargedIn := false }, true) else (s, followUp)

/-- `_drain_ends` from the top of its loop to its next suspension; `ends` is the queue. -/
def drainLoop (control : Control) : List End → Session → Session
  | [], s => s
  | e :: ends, s =>
    if s.endedNotified || s.closed then s
    else
      match s.letGo e with
      | none => s
      | some s =>
        let s := { s with pendingEnds := ends }.releaseAgentMedia e.media
        if !control.owns then drainLoop control ends s
        else
          let (s, followUp) := s.bargedIn e.followUp
          if control.socket then { s with loops := s.loops + 1, sent := s.sent ++ [(e, followUp)] }
          else drainLoop control ends s

def drainEnds (control : Control) (s : Session) : Session := drainLoop control s.pendingEnds s

def scheduleDrainTimer (s : Session) : Session := { s with drainTimer := true }

def cancelDrainTimer (s : Session) : Session := { s with drainTimer := false }

def replyActive (s : Session) : Bool := 0 < s.botSpeaking || s.drainTimer

def onInterruption (s : Session) : Session :=
  if s.replyActive then { s with userBargedIn := true } else s

def onBotStartedSpeaking (s : Session) : Session :=
  { s with botSpeaking := s.botSpeaking + 1 }.cancelDrainTimer

def onBotStoppedSpeaking (s : Session) : Session :=
  let s := { s with botSpeaking := s.botSpeaking - 1 }
  if s.botSpeaking = 0 then s.scheduleDrainTimer else s

/-- `close` up to its teardowns. -/
def beginClose (s : Session) : Session :=
  if s.closed then s else { s with closed := true }.cancelDrainTimer

/-- `close` after its teardowns. -/
def endClose (s : Session) (ok : Bool) : Session :=
  if ok then
    { s with
      drainedMedia := s.drainedMedia.filter fun media => !s.retains media
      agentMedia := []
      pendingEnds := []
      tornDown := true }
  else s

def agentTurnCompleteCallback (s : Session) (active : Option Text) : Session :=
  if s.closed then s
  else
    match active with
    | none => s.beginClose
    | some agent =>
      if s.agentMedia.any fun entry => entry.2 ≠ agent then s.beginClose
      else { s with agentMedia := s.agentMedia ++ [(s.begun, agent)], begun := s.begun + 1 }

def onTurnComplete (s : Session) (media : Option ℕ) (followUp hasAudio : Bool)
    (control : Control) : Session :=
  if s.closed || s.endedNotified then s
  else
    let e : End := ⟨s.completed.length, followUp, hasAudio, media⟩
    let s := { s with pendingEnds := s.pendingEnds ++ [e], completed := s.completed ++ [e] }
    let s := if hasAudio && s.botSpeaking = 0 then s.scheduleDrainTimer else s
    s.drainEnds control

def drainAfterIdle (s : Session) (control : Control) : Session :=
  let s := s.cancelDrainTimer
  if s.closed || s.botSpeaking ≠ 0 then s
  else if s.pendingEnds.any fun e => e.hasAudio && e.media.isNone then
    { s with botStopCredits := s.botStopCredits + 1 }.drainEnds control
  else s

def outputDrained (s : Session) (media : ℕ) (control : Control) : Session :=
  let s := { s with acked := s.acked ++ [media] }
  if s.retains media && !s.closed then
    { s with drainedMedia := s.drainedMedia ++ [media] }.drainEnds control
  else s

def notifyEnded (s : Session) : Session :=
  if s.endedNotified then s
  else { s with endedNotified := true, pendingEnds := [], botStopCredits := 0 }.cancelDrainTimer

/-- The end marker of an agent turn is on its way, or not yet sent on it. -/
def inFlight (s : Session) (media : ℕ) : Bool :=
  media < s.begun && !s.acked.contains media && !s.lost.contains media

/-- A completion is called once, a marker is seen once. -/
def step (s : Session) : Act → Option Session
  | .begin active => some (s.agentTurnCompleteCallback active)
  | .complete (some media) followUp hasAudio control =>
    if media < s.begun ∧ media ∉ s.called then
      some ({ s with called := media :: s.called }.onTurnComplete (some media) followUp hasAudio
        control)
    else none
  | .complete none followUp hasAudio control =>
    some (s.onTurnComplete none followUp hasAudio control)
  | .skipped => some s
  | .botStarted => some s.onBotStartedSpeaking
  | .botStopped => some s.onBotStoppedSpeaking
  | .idle control => if s.drainTimer then some (s.drainAfterIdle control) else none
  | .interruption => some s.onInterruption
  | .outputDrained media control =>
    if s.inFlight media then some (s.outputDrained media control) else none
  | .lose media => if s.inFlight media then some { s with lost := media :: s.lost } else none
  | .resume control =>
    if s.loops = 0 then none else some ({ s with loops := s.loops - 1 }.drainEnds control)
  | .cancel => if s.loops = 0 then none else some { s with loops := s.loops - 1 }
  | .notifyEnded => some s.notifyEnded
  | .close => some s.beginClose
  | .closed ok => if s.closed then some (s.endClose ok) else none

def run (s : Session) (acts : List Act) : Option Session := acts.foldlM step s

/-! ### What a drain loop does -/

/-- The first end is let go. -/
def pop (s : Session) (e : End) (ends : List End) : Option Session :=
  (s.letGo e).map fun s => { s with pendingEnds := ends }.releaseAgentMedia e.media

lemma pop_cases {s s' : Session} {e : End} {ends : List End} (h : s.pop e ends = some s') :
    (∃ media, e.media = some media ∧ media ∈ s.drainedMedia ∧
      s' = { s with
        pendingEnds := ends
        drainedMedia := s.drainedMedia.filter (· ≠ media)
        agentMedia := s.agentMedia.filter (·.1 ≠ media) }) ∨
    (e.media = none ∧ ∃ credits, s' = { s with pendingEnds := ends, botStopCredits := credits }) := by
  obtain ⟨s₁, hs₁, rfl⟩ := Option.map_eq_some_iff.mp h
  unfold letGo at hs₁
  cases hm : e.media with
  | some media =>
    simp only [hm] at hs₁
    split at hs₁
    next hmem =>
      cases hs₁
      exact .inl ⟨media, rfl, hmem, rfl⟩
    next => cases hs₁
  | none =>
    simp only [hm] at hs₁
    split at hs₁
    · split at hs₁
      next => cases hs₁
      next =>
        cases hs₁
        exact .inr ⟨rfl, _, rfl⟩
    · cases hs₁
      exact .inr ⟨rfl, s.botStopCredits, rfl⟩

/-- A property that letting an end go preserves, the flag of a barge-in, and sending the end that
was let go, is preserved by a drain. -/
lemma drainEnds_keeps {P : Session → Prop} {s : Session} (control : Control)
    (hflag : ∀ s, P s → P { s with userBargedIn := false })
    (hpop : ∀ s e ends s', P s → s.pendingEnds = e :: ends → s.endedNotified = false →
      s.closed = false → s.pop e ends = some s' → P s')
    (hsend : ∀ s e ends s' followUp, P s → s.pendingEnds = e :: ends → s.pop e ends = some s' →
      P s' → P { s' with loops := s'.loops + 1, sent := s'.sent ++ [(e, followUp)] })
    (h : P s) : P (s.drainEnds control) := by
  have key : ∀ ends s, s.pendingEnds = ends → P s → P (drainLoop control ends s) := by
    intro ends
    induction ends with
    | nil =>
      intro s _ h
      exact h
    | cons e ends ih =>
      intro s hs h
      unfold drainLoop
      split
      · exact h
      next hopen =>
        simp only [Bool.or_eq_true, not_or, Bool.not_eq_true] at hopen
        cases hgo : s.letGo e with
        | none => exact h
        | some s₁ =>
          dsimp only
          have hpopped : s.pop e ends =
              some ({ s₁ with pendingEnds := ends }.releaseAgentMedia e.media) := by
            rw [pop, hgo]
            rfl
          have hpending : ({ s₁ with pendingEnds := ends }.releaseAgentMedia e.media).pendingEnds =
              ends := by
            cases e.media <;> rfl
          have hP := hpop s e ends _ h hs hopen.1 hopen.2 hpopped
          generalize { s₁ with pendingEnds := ends }.releaseAgentMedia e.media = s₂ at *
          split
          · exact ih s₂ hpending hP
          · cases hbarged : s₂.userBargedIn
            · have hsame : s₂.bargedIn e.followUp = (s₂, e.followUp) := by simp [bargedIn, hbarged]
              rw [hsame]
              split
              · exact hsend s e ends s₂ e.followUp h hs hpopped hP
              · exact ih s₂ hpending hP
            · have hset : s₂.bargedIn e.followUp = ({ s₂ with userBargedIn := false }, true) := by
                simp [bargedIn, hbarged]
              rw [hset]
              split
              · exact hflag _ (hsend s e ends s₂ true h hs hpopped hP)
              · exact ih _ hpending (hflag s₂ hP)
  exact key s.pendingEnds s rfl h

/-! ### Order and authority -/

/-- What holds in every state of a session. -/
structure Kept (s : Session) : Prop where
  turns : s.completed.map End.turn = List.range s.completed.length
  queue : ∃ gone, s.completed = gone ++ s.pendingEnds ∧ (s.sent.map Prod.fst).Sublist gone
  drained : ∀ media ∈ s.drainedMedia, media ∈ s.acked
  sent : ∀ e ∈ s.sent.map Prod.fst, ∀ media, e.media = some media → media ∈ s.acked
  authority : ∀ media < s.begun, s.retains media = true ∨ media ∈ s.acked ∨ s.tornDown = true

lemma retains_filter {s : Session} {media other : ℕ} (h : s.retains other = true)
    (hne : other ≠ media) :
    (s.agentMedia.filter (·.1 ≠ media)).any (fun entry => entry.1 = other) = true := by
  unfold retains at h
  rw [List.any_eq_true] at h ⊢
  obtain ⟨entry, hmem, heq⟩ := h
  simp only [decide_eq_true_eq] at heq
  refine ⟨entry, List.mem_filter.mpr ⟨hmem, ?_⟩, by simpa using heq⟩
  simpa [heq] using hne

lemma Kept.pop {s s' : Session} {e : End} {ends : List End} (h : Kept s)
    (hs : s.pendingEnds = e :: ends) (hp : s.pop e ends = some s') : Kept s' := by
  obtain ⟨gone, hgone, hsub⟩ := h.queue
  have hqueue : ∃ gone, s.completed = gone ++ ends ∧ (s.sent.map Prod.fst).Sublist gone :=
    ⟨gone ++ [e], by rw [hgone, hs, List.append_assoc]; rfl,
      hsub.trans (List.sublist_append_left gone [e])⟩
  rcases pop_cases hp with ⟨media, hmedia, hdrained, rfl⟩ | ⟨-, credits, rfl⟩
  · refine ⟨h.turns, hqueue, fun m hm => h.drained m (List.mem_of_mem_filter hm), h.sent, ?_⟩
    intro m hm
    by_cases hne : m = media
    · exact .inr (.inl (hne ▸ h.drained media hdrained))
    · rcases h.authority m hm with hr | hr
      · exact .inl (retains_filter hr hne)
      · exact .inr hr
  · exact ⟨h.turns, hqueue, h.drained, h.sent, h.authority⟩

lemma Kept.send {s s' : Session} {e : End} {ends : List End} (h : Kept s)
    (hs : s.pendingEnds = e :: ends) (hp : s.pop e ends = some s') (followUp : Bool) :
    Kept { s' with loops := s'.loops + 1, sent := s'.sent ++ [(e, followUp)] } := by
  have h' := h.pop hs hp
  obtain ⟨gone, hgone, hsub⟩ := h.queue
  have hsame : s'.completed = s.completed ∧ s'.sent = s.sent ∧ s'.pendingEnds = ends ∧
      s'.acked = s.acked := by
    rcases pop_cases hp with ⟨media, -, -, rfl⟩ | ⟨-, credits, rfl⟩ <;> exact ⟨rfl, rfl, rfl, rfl⟩
  obtain ⟨hcompleted, hsent, hpending, hacked⟩ := hsame
  refine ⟨h'.turns, ⟨gone ++ [e], ?_, ?_⟩, h'.drained, ?_, h'.authority⟩
  · simp only [hcompleted, hpending, hgone, hs, List.append_assoc]
    rfl
  · simp only [hsent, List.map_append, List.map_cons, List.map_nil]
    exact hsub.append (List.Sublist.refl [e])
  · intro f hf media hmedia
    simp only [List.map_append, List.map_cons, List.map_nil, List.mem_append,
      List.mem_singleton] at hf
    rcases hf with hf | rfl
    · exact h'.sent f hf media hmedia
    · rcases pop_cases hp with ⟨m, hm, hdrained, rfl⟩ | ⟨hnone, -⟩
      · rw [hmedia] at hm
        cases hm
        exact h.drained media hdrained
      · rw [hmedia] at hnone
        cases hnone

lemma Kept.drainEnds {s : Session} (h : Kept s) (control : Control) :
    Kept (s.drainEnds control) :=
  drainEnds_keeps control (fun _ h => ⟨h.turns, h.queue, h.drained, h.sent, h.authority⟩)
    (fun _ _ _ _ h hs _ _ hp => h.pop hs hp) (fun _ _ _ _ f h hs hp _ => h.send hs hp f) h

lemma Kept.beginClose {s : Session} (h : Kept s) : Kept s.beginClose := by
  unfold Session.beginClose
  split
  · exact h
  · exact ⟨h.turns, h.queue, h.drained, h.sent, h.authority⟩

lemma Kept.agentTurn {s : Session} (h : Kept s) (active : Option Text) :
    Kept (s.agentTurnCompleteCallback active) := by
  unfold agentTurnCompleteCallback
  split
  · exact h
  · split
    · exact h.beginClose
    · split
      · exact h.beginClose
      · refine ⟨h.turns, h.queue, h.drained, h.sent, fun media hmedia => ?_⟩
        by_cases hnew : media = s.begun
        · left
          simp [retains, hnew]
        · have hold : media < s.begun := by
            have hlt : media < s.begun + 1 := hmedia
            omega
          rcases h.authority media hold with hr | hr
          · left
            unfold retains at hr ⊢
            simp only [List.any_append, hr, Bool.true_or]
          · exact .inr hr

lemma Kept.turnComplete {s : Session} (h : Kept s) (media : Option ℕ) (followUp hasAudio : Bool)
    (control : Control) : Kept (s.onTurnComplete media followUp hasAudio control) := by
  unfold onTurnComplete
  split
  · exact h
  · refine Kept.drainEnds ?_ control
    obtain ⟨gone, hgone, hsub⟩ := h.queue
    have hturns : (s.completed ++ [(⟨s.completed.length, followUp, hasAudio, media⟩ : End)]).map
        End.turn = List.range (s.completed ++
          [(⟨s.completed.length, followUp, hasAudio, media⟩ : End)]).length := by
      rw [List.map_append, h.turns, List.length_append]
      exact List.range_succ.symm
    have hqueue : ∃ gone', s.completed ++ [(⟨s.completed.length, followUp, hasAudio, media⟩ : End)] =
        gone' ++ (s.pendingEnds ++ [⟨s.completed.length, followUp, hasAudio, media⟩]) ∧
        (s.sent.map Prod.fst).Sublist gone' := by
      refine ⟨gone, ?_, hsub⟩
      conv_lhs => rw [hgone]
      rw [List.append_assoc, ← hgone]
    dsimp only
    split
    · exact ⟨hturns, hqueue, h.drained, h.sent, h.authority⟩
    · exact ⟨hturns, hqueue, h.drained, h.sent, h.authority⟩

lemma Kept.cleared {s : Session} (h : Kept s) :
    ∃ gone, s.completed = gone ++ [] ∧ (s.sent.map Prod.fst).Sublist gone := by
  obtain ⟨gone, hgone, hsub⟩ := h.queue
  refine ⟨s.completed, (List.append_nil _).symm, hsub.trans ?_⟩
  rw [hgone]
  exact List.sublist_append_left gone s.pendingEnds

/-- Every step keeps the order and the authority. -/
lemma Kept.step {s s' : Session} {act : Act} (h : Kept s) (hs : s.step act = some s') :
    Kept s' := by
  have hsame : Kept s → ∀ {t : Session}, t.completed = s.completed → t.pendingEnds = s.pendingEnds →
      t.sent = s.sent → t.drainedMedia = s.drainedMedia → t.acked = s.acked →
      t.agentMedia = s.agentMedia → t.begun = s.begun → t.tornDown = s.tornDown → Kept t := by
    intro h t h₁ h₂ h₃ h₄ h₅ h₆ h₇ h₈
    refine ⟨by rw [h₁]; exact h.turns, by rw [h₁, h₂, h₃]; exact h.queue,
      by rw [h₄, h₅]; exact h.drained, by rw [h₃, h₅]; exact h.sent, ?_⟩
    rw [h₅, h₇, h₈]
    unfold retains
    rw [h₆]
    exact h.authority
  cases act with
  | begin active =>
    cases hs
    exact h.agentTurn active
  | complete media followUp hasAudio control =>
    cases media with
    | none =>
      cases hs
      exact h.turnComplete none followUp hasAudio control
    | some media =>
      simp only [Session.step] at hs
      split at hs
      · cases hs
        refine Kept.turnComplete ?_ _ _ _ _
        exact hsame h rfl rfl rfl rfl rfl rfl rfl rfl
      · cases hs
  | skipped =>
    cases hs
    exact h
  | botStarted =>
    cases hs
    exact hsame h rfl rfl rfl rfl rfl rfl rfl rfl
  | botStopped =>
    cases hs
    unfold onBotStoppedSpeaking
    dsimp only
    split <;> exact hsame h rfl rfl rfl rfl rfl rfl rfl rfl
  | idle control =>
    simp only [Session.step] at hs
    split at hs
    · cases hs
      unfold drainAfterIdle
      dsimp only
      split
      · exact hsame h rfl rfl rfl rfl rfl rfl rfl rfl
      · split
        · refine Kept.drainEnds ?_ control
          exact hsame h rfl rfl rfl rfl rfl rfl rfl rfl
        · exact hsame h rfl rfl rfl rfl rfl rfl rfl rfl
    · cases hs
  | interruption =>
    cases hs
    unfold onInterruption
    split
    · exact hsame h rfl rfl rfl rfl rfl rfl rfl rfl
    · exact h
  | outputDrained media control =>
    simp only [Session.step] at hs
    split at hs
    · cases hs
      have hacked : Kept { s with acked := s.acked ++ [media] } := by
        refine ⟨h.turns, h.queue, fun m hm => List.mem_append_left _ (h.drained m hm),
          fun e he m hm => List.mem_append_left _ (h.sent e he m hm), fun m hm => ?_⟩
        rcases h.authority m hm with hr | hr | hr
        · exact .inl hr
        · exact .inr (.inl (List.mem_append_left _ hr))
        · exact .inr (.inr hr)
      unfold Session.outputDrained
      dsimp only
      split
      · refine Kept.drainEnds ?_ control
        refine ⟨hacked.turns, hacked.queue, fun m hm => ?_, hacked.sent, hacked.authority⟩
        rcases List.mem_append.mp hm with hm | hm
        · exact hacked.drained m hm
        · rw [List.mem_singleton.mp hm]
          exact List.mem_append_right _ (List.mem_singleton_self media)
      · exact hacked
    · cases hs
  | lose media =>
    simp only [Session.step] at hs
    split at hs
    · cases hs
      exact hsame h rfl rfl rfl rfl rfl rfl rfl rfl
    · cases hs
  | resume control =>
    simp only [Session.step] at hs
    split at hs
    · cases hs
    · cases hs
      refine Kept.drainEnds ?_ control
      exact hsame h rfl rfl rfl rfl rfl rfl rfl rfl
  | cancel =>
    simp only [Session.step] at hs
    split at hs
    · cases hs
    · cases hs
      exact hsame h rfl rfl rfl rfl rfl rfl rfl rfl
  | notifyEnded =>
    cases hs
    unfold Session.notifyEnded
    split
    · exact h
    · exact ⟨h.turns, h.cleared, h.drained, h.sent, h.authority⟩
  | close =>
    cases hs
    exact h.beginClose
  | closed ok =>
    simp only [Session.step] at hs
    split at hs
    · cases hs
      unfold endClose
      split
      · exact ⟨h.turns, h.cleared, fun m hm => h.drained m (List.mem_of_mem_filter hm), h.sent,
          fun _ _ => .inr (.inr rfl)⟩
      · exact h
    · cases hs

lemma Kept.new : Kept .new := by
  refine ⟨rfl, ⟨[], rfl, List.Sublist.refl []⟩, ?_, ?_, ?_⟩
  · intro media hm
    cases hm
  · intro e he
    cases he
  · intro media hm
    cases hm

lemma run_append (s : Session) (acts : List Act) (act : Act) :
    s.run (acts ++ [act]) = (s.run acts).bind fun s => s.step act := by
  unfold run
  rw [List.foldlM_append]
  simp

/-- What every step preserves holds after every run. -/
lemma run_induction {P : Session → Prop} (h0 : P .new)
    (hstep : ∀ s act s', P s → s.step act = some s' → P s') {acts : List Act} {s : Session}
    (hrun : Session.new.run acts = some s) : P s := by
  induction acts using List.reverseRecOn generalizing s with
  | nil =>
    cases hrun
    exact h0
  | append_singleton acts act ih =>
    rw [run_append] at hrun
    obtain ⟨s₁, hs₁, hs⟩ := Option.bind_eq_some_iff.mp hrun
    exact hstep s₁ act s (ih hs₁) hs

lemma run_kept {acts : List Act} {s : Session} (hrun : Session.new.run acts = some s) : Kept s :=
  run_induction Kept.new (fun _ _ _ h hs => h.step hs) hrun

/-- **Ends are sent in order, and after their output.** In every state of a session each end that
was sent is that of one completed turn, none is sent twice, and they were sent in the order in which
the turns completed; the end of an agent turn was sent after the acknowledgement of its own output;
an agent turn whose authority is given up has been acknowledged, or the teardown has succeeded. -/
theorem ends_in_order {acts : List Act} {s : Session} (hrun : Session.new.run acts = some s) :
    s.completed.map End.turn = List.range s.completed.length ∧
      (s.sent.map Prod.fst).Sublist s.completed ∧
      (∀ e ∈ s.sent.map Prod.fst, ∀ media, e.media = some media → media ∈ s.acked) ∧
      ∀ media < s.begun, s.retains media = false → media ∈ s.acked ∨ s.tornDown = true := by
  have h := run_kept hrun
  obtain ⟨gone, hgone, hsub⟩ := h.queue
  refine ⟨h.turns, hsub.trans ?_, h.sent, fun media hm hgiven => ?_⟩
  · rw [hgone]
    exact List.sublist_append_left gone s.pendingEnds
  · rcases h.authority media hm with hr | hr
    · rw [hgiven] at hr
      cases hr
    · exact hr

/-- A turn is interrupted while it is spoken, and drained behind the text of the next one. -/
def twoTurns : List Act :=
  [.begin (some [97]), .complete (some 0) false true ⟨true, true⟩, .botStarted, .interruption,
    .botStopped, .begin (some [97]), .complete (some 1) false true ⟨true, true⟩,
    .outputDrained 0 ⟨true, true⟩, .botStarted, .botStopped, .outputDrained 1 ⟨true, true⟩,
    .resume ⟨true, true⟩, .resume ⟨true, true⟩]

theorem ends_in_order_sample :
    (Session.new.run twoTurns).map (fun s => s.sent.map fun e => (e.1.turn, e.2)) =
        some [(0, true), (1, false)] ∧
      ∀ s, Session.new.run twoTurns = some s → (s.sent.map Prod.fst).Sublist s.completed :=
  ⟨by decide, fun _ hrun => (ends_in_order hrun).2.1⟩

/-! ### What a lost marker does -/

/-- Every drain loop that was started has come to its end. -/
def Quiet (s : Session) : Prop := s.loops = 0

/-- Nothing keeps an end: the marker of its turn has reached the tap, or it has no audio to wait
for. -/
def settled (s : Session) (e : End) : Bool :=
  match e.media with
  | some media => s.acked.contains media
  | none => !e.hasAudio

/-- The first end, if any, cannot go. -/
def Blocked (s : Session) : Prop := ∀ e later, s.pendingEnds = e :: later → s.letGo e = none

/-- In a session that goes on, the control channel is its own and the socket is open whenever it
looks at its queue; whatever stands in front of an end is settled when the marker of its turn
reaches the tap, or when the turn completes behind its marker; and no loop is cancelled that would
let another end go. -/
def Spares (s : Session) (act : Act) : Prop :=
  s.closed = false → s.endedNotified = false →
    match act with
    | .complete media _ _ control =>
      control = ⟨true, true⟩ ∧
        ∀ m, media = some m → m ∈ s.acked → ∀ d ∈ s.pendingEnds, s.settled d = true
    | .idle control => control = ⟨true, true⟩
    | .outputDrained media control =>
      control = ⟨true, true⟩ ∧
        ∀ before e later, s.pendingEnds = before ++ e :: later → e.media = some media →
          ∀ d ∈ before, s.settled d = true
    | .resume control => control = ⟨true, true⟩
    | .cancel => s.loops = 1 → s.Blocked
    | _ => True

/-- What holds of a session that is not closed. -/
structure Live (s : Session) : Prop where
  ended : s.endedNotified = true → s.pendingEnds = []
  queued : ∀ e ∈ s.pendingEnds, ∀ media, e.media = some media →
    media ∈ s.called ∧ s.retains media = true
  distinct : (s.pendingEnds.filterMap End.media).Nodup
  fresh : ∀ media < s.begun, media ∉ s.called → s.retains media = true
  bound : ∀ media, s.retains media = true → media < s.begun
  acked : ∀ media ∈ s.acked, media < s.begun
  drained : ∀ media, s.retains media = true → media ∈ s.acked → media ∈ s.drainedMedia
  apart : ∀ media ∈ s.lost, media ∉ s.acked
  front : ∀ before e later, s.pendingEnds = before ++ e :: later → ∀ media, e.media = some media →
    media ∈ s.acked → ∀ d ∈ before, s.settled d = true

lemma Live.new : Live .new := by
  refine ⟨fun h => (by cases h), ?_, List.nodup_nil, ?_, ?_, ?_, ?_, ?_, ?_⟩
  · intro e he
    cases he
  · intro media hm
    cases hm
  · intro media hm
    cases hm
  · intro media hm
    cases hm
  · intro media hm
    cases hm
  · intro media hm
    cases hm
  · intro before e later hends
    cases before <;> cases hends

lemma of_retains_filter {s : Session} {media other : ℕ}
    (h : (s.agentMedia.filter (·.1 ≠ media)).any (fun entry => entry.1 = other) = true) :
    s.retains other = true ∧ other ≠ media := by
  unfold retains
  rw [List.any_eq_true] at h ⊢
  obtain ⟨entry, hmem, heq⟩ := h
  simp only [decide_eq_true_eq] at heq
  obtain ⟨hmem, hne⟩ := List.mem_filter.mp hmem
  refine ⟨⟨entry, hmem, by simpa using heq⟩, ?_⟩
  simpa [heq] using hne

lemma Live.pop {s s' : Session} {e : End} {ends : List End} (h : Live s)
    (hs : s.pendingEnds = e :: ends) (hended : s.endedNotified = false)
    (hp : s.pop e ends = some s') : Live s' := by
  have hdistinct := h.distinct
  rw [hs] at hdistinct
  have hmem : ∀ f ∈ ends, f ∈ s.pendingEnds := fun f hf => hs ▸ List.mem_cons_of_mem e hf
  have hfirst : e ∈ s.pendingEnds := hs ▸ List.mem_cons_self
  have hfront : ∀ before f later, ends = before ++ f :: later → ∀ m, f.media = some m →
      m ∈ s.acked → ∀ d ∈ before, s.settled d = true := by
    intro before f later hends m hm hacked d hd
    refine h.front (e :: before) f later ?_ m hm hacked d (List.mem_cons_of_mem e hd)
    rw [hs, hends]
    rfl
  rcases pop_cases hp with ⟨media, hmedia, -, rfl⟩ | ⟨hnone, credits, rfl⟩
  · rw [List.filterMap_cons_some hmedia, List.nodup_cons] at hdistinct
    refine ⟨fun h' => ?_, fun f hf other hother => ?_, hdistinct.2, fun other ho hcalled => ?_,
      fun other ho => ?_, h.acked, fun other ho hacked => ?_, h.apart, hfront⟩
    · rw [hended] at h'
      cases h'
    · obtain ⟨hcalled, hretains⟩ := h.queued f (hmem f hf) other hother
      refine ⟨hcalled, retains_filter hretains ?_⟩
      rintro rfl
      exact hdistinct.1 (List.mem_filterMap.mpr ⟨f, hf, hother⟩)
    · refine retains_filter (h.fresh other ho hcalled) ?_
      rintro rfl
      exact hcalled (h.queued e hfirst other hmedia).1
    · exact h.bound other (of_retains_filter ho).1
    · obtain ⟨hr, hne⟩ := of_retains_filter ho
      exact List.mem_filter.mpr ⟨h.drained other hr hacked, by simpa using hne⟩
  · rw [List.filterMap_cons_none hnone] at hdistinct
    refine ⟨fun h' => ?_, fun f hf => h.queued f (hmem f hf), hdistinct, h.fresh, h.bound, h.acked,
      h.drained, h.apart, hfront⟩
    rw [hended] at h'
    cases h'

lemma Live.drainEnds {s : Session} (h : Live s) (control : Control) :
    Live (s.drainEnds control) :=
  drainEnds_keeps control
    (fun _ h => ⟨h.ended, h.queued, h.distinct, h.fresh, h.bound, h.acked, h.drained, h.apart,
      h.front⟩)
    (fun _ _ _ _ h hs hended _ hp => h.pop hs hended hp)
    (fun _ _ _ _ _ _ _ _ h => ⟨h.ended, h.queued, h.distinct, h.fresh, h.bound, h.acked,
      h.drained, h.apart, h.front⟩) h

/-- A drain neither closes a session nor ends it. -/
lemma flags_drainEnds (s : Session) (control : Control) :
    (s.drainEnds control).closed = s.closed ∧
      (s.drainEnds control).endedNotified = s.endedNotified := by
  refine drainEnds_keeps (P := fun t => t.closed = s.closed ∧ t.endedNotified = s.endedNotified)
    control (fun _ h => h) ?_ (fun _ _ _ _ _ _ _ _ h => h) ⟨rfl, rfl⟩
  intro t e ends t' h _ _ _ hp
  rcases pop_cases hp with ⟨media, -, -, rfl⟩ | ⟨-, credits, rfl⟩ <;> exact h

/-- A drain that sends nothing stops at an end that cannot go. -/
lemma drainEnds_blocked {s : Session} (control : Control) (hclosed : s.closed = false)
    (hended : s.endedNotified = true → s.pendingEnds = [])
    (hloops : (s.drainEnds control).loops = 0) : (s.drainEnds control).Blocked := by
  have key : ∀ ends s, s.pendingEnds = ends → s.closed = false →
      (s.endedNotified = true → s.pendingEnds = []) → (drainLoop control ends s).loops = 0 →
      (drainLoop control ends s).Blocked := by
    intro ends
    induction ends with
    | nil =>
      intro s hs _ _ _ e later he
      have he' : s.pendingEnds = e :: later := he
      rw [hs] at he'
      cases he'
    | cons e ends ih =>
      intro s hs hclosed hended hloops
      have hopen : s.endedNotified = false := by
        by_contra hne
        have hnil := hended (by simpa using hne)
        rw [hs] at hnil
        cases hnil
      unfold drainLoop at hloops ⊢
      rw [hopen, hclosed] at hloops ⊢
      simp only [Bool.or_self, Bool.false_eq_true, if_false] at hloops ⊢
      cases hgo : s.letGo e with
      | none =>
        intro f later hf
        have hf' : s.pendingEnds = f :: later := hf
        rw [hs] at hf'
        cases hf'
        exact hgo
      | some s₁ =>
        rw [hgo] at hloops
        dsimp only at hloops ⊢
        have hfields : ({ s₁ with pendingEnds := ends }.releaseAgentMedia e.media).pendingEnds =
            ends ∧ ({ s₁ with pendingEnds := ends }.releaseAgentMedia e.media).closed = false ∧
            ({ s₁ with pendingEnds := ends }.releaseAgentMedia e.media).endedNotified = false := by
          have hpopped : s.pop e ends =
              some ({ s₁ with pendingEnds := ends }.releaseAgentMedia e.media) := by
            rw [Session.pop, hgo]
            rfl
          rcases pop_cases hpopped with ⟨media, -, -, heq⟩ | ⟨-, credits, heq⟩
          · rw [heq]
            exact ⟨rfl, hclosed, hopen⟩
          · rw [heq]
            exact ⟨rfl, hclosed, hopen⟩
        generalize { s₁ with pendingEnds := ends }.releaseAgentMedia e.media = s₂ at *
        obtain ⟨hpending, hclosed₂, hended₂⟩ := hfields
        have hno : s₂.endedNotified = true → s₂.pendingEnds = [] := by
          intro h
          rw [hended₂] at h
          cases h
        split at hloops
        next howns =>
          rw [if_pos howns]
          exact ih s₂ hpending hclosed₂ hno hloops
        next howns =>
          rw [if_neg howns]
          cases hbarged : s₂.userBargedIn
          · have hsame : s₂.bargedIn e.followUp = (s₂, e.followUp) := by simp [bargedIn, hbarged]
            rw [hsame] at hloops ⊢
            split at hloops
            next => simp at hloops
            next hsocket =>
              rw [if_neg hsocket]
              exact ih s₂ hpending hclosed₂ hno hloops
          · have hset : s₂.bargedIn e.followUp = ({ s₂ with userBargedIn := false }, true) := by
              simp [bargedIn, hbarged]
            rw [hset] at hloops ⊢
            split at hloops
            next => simp at hloops
            next hsocket =>
              rw [if_neg hsocket]
              exact ih _ hpending hclosed₂ hno hloops
  exact key s.pendingEnds s rfl hclosed hended hloops

/-- Every completed turn has its end in the queue, or behind it. -/
def Whole (s : Session) : Prop :=
  s.endedNotified = false → s.completed = s.sent.map Prod.fst ++ s.pendingEnds

/-- With the control channel and an open socket no end goes without being sent. -/
lemma Whole.drainEnds {s : Session} (h : Whole s) : Whole (s.drainEnds ⟨true, true⟩) := by
  unfold Session.drainEnds
  cases hs : s.pendingEnds with
  | nil => exact h
  | cons e ends =>
    unfold drainLoop
    split
    · exact h
    · cases hgo : s.letGo e with
      | none => exact h
      | some s₁ =>
        dsimp only
        have hpopped : s.pop e ends =
            some ({ s₁ with pendingEnds := ends }.releaseAgentMedia e.media) := by
          rw [Session.pop, hgo]
          rfl
        generalize { s₁ with pendingEnds := ends }.releaseAgentMedia e.media = s₂ at *
        have hfields : s₂.endedNotified = s.endedNotified ∧ s₂.completed = s.completed ∧
            s₂.sent = s.sent ∧ s₂.pendingEnds = ends := by
          rcases pop_cases hpopped with ⟨media, -, -, rfl⟩ | ⟨-, credits, rfl⟩ <;>
            exact ⟨rfl, rfl, rfl, rfl⟩
        obtain ⟨hended, hcompleted, hsent, hpending⟩ := hfields
        have hwhole : s₂.endedNotified = false →
            s₂.completed = (s₂.sent.map Prod.fst ++ [e]) ++ s₂.pendingEnds := by
          intro hopen
          rw [hended] at hopen
          rw [hcompleted, hsent, hpending, h hopen, hs, List.append_assoc]
          rfl
        cases hbarged : s₂.userBargedIn <;>
          simpa [bargedIn, hbarged, Whole] using hwhole

/-- The same session as far as its ends go. -/
lemma Live.congr {s t : Session} (h : Live s) (h₁ : t.pendingEnds = s.pendingEnds)
    (h₂ : t.called = s.called) (h₃ : t.agentMedia = s.agentMedia) (h₄ : t.lost = s.lost)
    (h₅ : t.begun = s.begun) (h₆ : t.acked = s.acked) (h₇ : t.drainedMedia = s.drainedMedia)
    (h₈ : t.endedNotified = s.endedNotified) : Live t := by
  have hr : t.retains = s.retains := by
    funext media
    unfold retains
    rw [h₃]
  have hsettled : t.settled = s.settled := by
    funext e
    unfold settled
    rw [h₆]
  refine ⟨?_, ?_, ?_, ?_, ?_, ?_, ?_, ?_, ?_⟩
  · rw [h₈, h₁]
    exact h.ended
  · rw [h₁, h₂, hr]
    exact h.queued
  · rw [h₁]
    exact h.distinct
  · rw [h₅, h₂, hr]
    exact h.fresh
  · rw [hr, h₅]
    exact h.bound
  · rw [h₆, h₅]
    exact h.acked
  · rw [hr, h₆, h₇]
    exact h.drained
  · rw [h₄, h₆]
    exact h.apart
  · rw [h₁, h₆, hsettled]
    exact h.front

lemma Blocked.congr {s t : Session} (h : Blocked s) (h₁ : t.pendingEnds = s.pendingEnds)
    (h₂ : t.drainedMedia = s.drainedMedia) (h₃ : t.botStopCredits = s.botStopCredits) :
    Blocked t := by
  intro e later he
  rw [h₁] at he
  have hnone := h e later he
  unfold letGo at hnone ⊢
  rw [h₂, h₃]
  cases hm : e.media with
  | some media =>
    simp only [hm] at hnone ⊢
    split at hnone
    · cases hnone
    next hmem => rw [if_neg hmem]
  | none =>
    simp only [hm] at hnone ⊢
    split at hnone
    next haudio =>
      rw [if_pos haudio]
      split at hnone
      next hzero => rw [if_pos hzero]
      next => cases hnone
    next => cases hnone

/-- What a session keeps until it is closed. -/
def Sound (s : Session) : Prop :=
  s.closed = false → s.Live ∧ (s.Quiet → s.Blocked) ∧ s.Whole

lemma Sound.of_drain {s : Session} {control : Control}
    (h : s.closed = false → s.Live ∧ (s.endedNotified = false → control = ⟨true, true⟩ ∧ s.Whole)) :
    Sound (s.drainEnds control) := by
  intro hclosed
  rw [(flags_drainEnds s control).1] at hclosed
  obtain ⟨hlive, hopen⟩ := h hclosed
  refine ⟨hlive.drainEnds control, drainEnds_blocked control hclosed hlive.ended, fun hended => ?_⟩
  have hopened := hended
  rw [(flags_drainEnds s control).2] at hopened
  obtain ⟨rfl, hwhole⟩ := hopen hopened
  exact hwhole.drainEnds hended

lemma Sound.congr {s t : Session} (h : Sound s) (h₀ : t.closed = s.closed)
    (h₁ : t.pendingEnds = s.pendingEnds) (h₂ : t.called = s.called)
    (h₃ : t.agentMedia = s.agentMedia) (h₄ : t.lost = s.lost) (h₅ : t.begun = s.begun)
    (h₆ : t.acked = s.acked) (h₇ : t.drainedMedia = s.drainedMedia)
    (h₈ : t.endedNotified = s.endedNotified) (h₉ : t.botStopCredits = s.botStopCredits)
    (h₁₀ : t.completed = s.completed) (h₁₁ : t.sent = s.sent) (hquiet : t.loops = s.loops) :
    Sound t := by
  intro hclosed
  rw [h₀] at hclosed
  obtain ⟨hlive, hblocked, hwhole⟩ := h hclosed
  refine ⟨hlive.congr h₁ h₂ h₃ h₄ h₅ h₆ h₇ h₈, fun hq => ?_, ?_⟩
  · unfold Quiet at hq
    rw [hquiet] at hq
    exact (hblocked hq).congr h₁ h₇ h₉
  · unfold Whole
    rw [h₈, h₁₀, h₁₁, h₁]
    exact hwhole

lemma Sound.of_closed {s : Session} (h : s.closed = true) : Sound s := by
  intro hclosed
  rw [h] at hclosed
  cases hclosed

lemma closed_beginClose (s : Session) : s.beginClose.closed = true := by
  unfold Session.beginClose
  split
  · assumption
  · rfl

lemma Sound.agentTurn {s : Session} (h : Sound s) (active : Option Text) :
    Sound (s.agentTurnCompleteCallback active) := by
  unfold agentTurnCompleteCallback
  split
  · exact h
  next hopen =>
    split
    · exact Sound.of_closed (closed_beginClose s)
    next agent =>
      split
      · exact Sound.of_closed (closed_beginClose s)
      · intro _
        obtain ⟨hlive, hblocked, hwhole⟩ := h (by simpa using hopen)
        have hold : ∀ media, s.retains media = true →
            (s.agentMedia ++ [(s.begun, agent)]).any (fun entry => entry.1 = media) = true := by
          intro media hr
          unfold retains at hr
          simp only [List.any_append, hr, Bool.true_or]
        have hnew : ∀ media, (s.agentMedia ++ [(s.begun, agent)]).any
            (fun entry => entry.1 = media) = true → s.retains media = true ∨ media = s.begun := by
          intro media hr
          rw [List.any_append, Bool.or_eq_true] at hr
          rcases hr with hr | hr
          · exact .inl hr
          · right
            simpa [eq_comm] using hr
        refine ⟨⟨hlive.ended, fun e he media hm => ?_, hlive.distinct, fun media hm hc => ?_,
          fun media hr => ?_, fun media hm => Nat.lt_succ_of_lt (hlive.acked media hm),
          fun media hr hacked => ?_, hlive.apart, hlive.front⟩,
          fun hq => (hblocked hq).congr rfl rfl rfl, hwhole⟩
        · obtain ⟨hc, hr⟩ := hlive.queued e he media hm
          exact ⟨hc, hold media hr⟩
        · by_cases hb : media = s.begun
          · subst hb
            simp [retains]
          · have hlt : media < s.begun := by
              have hlt : media < s.begun + 1 := hm
              omega
            exact hold media (hlive.fresh media hlt hc)
        · have hlt : media < s.begun ∨ media = s.begun := (hnew media hr).imp_left (hlive.bound media)
          have goal : media < s.begun + 1 := by omega
          exact goal
        · rcases hnew media hr with hr | rfl
          · exact hlive.drained media hr hacked
          · exact absurd (hlive.acked s.begun hacked) (Nat.lt_irrefl _)

/-- A queue of which nothing is in front of a drained end, with another end behind it. -/
lemma front_append {s : Session} {e : End}
    (h : ∀ before f later, s.pendingEnds = before ++ f :: later → ∀ m, f.media = some m →
      m ∈ s.acked → ∀ d ∈ before, s.settled d = true)
    (he : ∀ m, e.media = some m → m ∈ s.acked → ∀ d ∈ s.pendingEnds, s.settled d = true) :
    ∀ before f later, s.pendingEnds ++ [e] = before ++ f :: later → ∀ m, f.media = some m →
      m ∈ s.acked → ∀ d ∈ before, s.settled d = true := by
  intro before f later hends m hm hacked
  rcases List.eq_nil_or_concat later with rfl | ⟨rest, g, rfl⟩
  · obtain ⟨rfl, hfe⟩ := List.append_inj' hends rfl
    cases hfe
    exact he m hm hacked
  · have hsplit : s.pendingEnds ++ [e] = (before ++ f :: rest) ++ [g] := by
      rw [hends]
      simp
    exact h before f rest (List.append_inj' hsplit rfl).1 m hm hacked

/-- A completion queues an end that can be acknowledged. -/
lemma Sound.turnComplete {s : Session} {media : Option ℕ} (h : s.closed = false → s.Live ∧ s.Whole)
    (hmedia : ∀ m, media = some m → s.closed = false → s.endedNotified = false →
      m ∈ s.called ∧ s.retains m = true ∧ ∀ e ∈ s.pendingEnds, e.media ≠ some m)
    (hsame : s.closed || s.endedNotified → Sound s) {control : Control}
    (hspares : s.closed = false → s.endedNotified = false → control = ⟨true, true⟩ ∧
      ∀ m, media = some m → m ∈ s.acked → ∀ d ∈ s.pendingEnds, s.settled d = true)
    (followUp hasAudio : Bool) : Sound (s.onTurnComplete media followUp hasAudio control) := by
  unfold onTurnComplete
  split
  next hdone => exact hsame hdone
  next hopen =>
    simp only [Bool.or_eq_true, not_or, Bool.not_eq_true] at hopen
    obtain ⟨hcontrol, hsettled⟩ := hspares hopen.1 hopen.2
    obtain ⟨hlive, hwhole⟩ := h hopen.1
    refine Sound.of_drain fun _ => ?_
    have hnew : Live { s with
        pendingEnds := s.pendingEnds ++ [⟨s.completed.length, followUp, hasAudio, media⟩]
        completed := s.completed ++ [⟨s.completed.length, followUp, hasAudio, media⟩] } := by
      refine ⟨fun h' => ?_, fun e he m hm => ?_, ?_, hlive.fresh, hlive.bound, hlive.acked,
        hlive.drained, hlive.apart, front_append hlive.front hsettled⟩
      · exact absurd h' (by simp [hopen.2])
      · rcases List.mem_append.mp he with he | he
        · exact hlive.queued e he m hm
        · rw [List.mem_singleton.mp he] at hm
          obtain ⟨hc, hr, -⟩ := hmedia m hm hopen.1 hopen.2
          exact ⟨hc, hr⟩
      · rw [List.filterMap_append, List.nodup_append]
        refine ⟨hlive.distinct, ?_, ?_⟩
        · cases media <;> simp
        · intro a ha b hb hab
          subst hab
          obtain ⟨e, he, hea⟩ := List.mem_filterMap.mp ha
          have hma : media = some a := by
            cases media with
            | none => simp at hb
            | some m => simpa [eq_comm] using hb
          exact (hmedia a hma hopen.1 hopen.2).2.2 e he hea
    have hqueued : s.completed ++ [(⟨s.completed.length, followUp, hasAudio, media⟩ : End)] =
        s.sent.map Prod.fst ++
          (s.pendingEnds ++ [⟨s.completed.length, followUp, hasAudio, media⟩]) := by
      conv_lhs => rw [hwhole hopen.2]
      rw [List.append_assoc, ← hwhole hopen.2]
    dsimp only
    split
    · exact ⟨hnew.congr rfl rfl rfl rfl rfl rfl rfl rfl, fun _ => ⟨hcontrol, fun _ => hqueued⟩⟩
    · exact ⟨hnew, fun _ => ⟨hcontrol, fun _ => hqueued⟩⟩

/-- The marker of a turn reaches the tap: what stands in front of its end is settled. -/
lemma Live.acknowledge {s : Session} {media : ℕ} (h : Live s) (hflight : s.inFlight media = true)
    (hnext : ∀ before e later, s.pendingEnds = before ++ e :: later → e.media = some media →
      ∀ d ∈ before, s.settled d = true) {drained : List ℕ}
    (hdrained : ∀ m, s.retains m = true → m ∈ s.acked ++ [media] → m ∈ drained) :
    Live { s with acked := s.acked ++ [media], drainedMedia := drained } := by
  simp only [inFlight, Bool.and_eq_true, decide_eq_true_eq, Bool.not_eq_true',
    List.contains_eq_mem, decide_eq_false_iff_not] at hflight
  have hmono : ∀ d, s.settled d = true →
      settled { s with acked := s.acked ++ [media], drainedMedia := drained } d = true := by
    intro d hd
    unfold settled at hd ⊢
    cases hm : d.media with
    | some m =>
      simp only [hm, List.contains_eq_mem, decide_eq_true_eq] at hd ⊢
      exact List.mem_append_left _ hd
    | none =>
      rw [hm] at hd
      exact hd
  refine ⟨h.ended, h.queued, h.distinct, h.fresh, h.bound, fun m hm => ?_, hdrained,
    fun m hlost hm => ?_, fun before e later hends m hm hacked d hd => hmono d ?_⟩
  · rcases List.mem_append.mp hm with hm | hm
    · exact h.acked m hm
    · rw [List.mem_singleton.mp hm]
      exact hflight.1.1
  · rcases List.mem_append.mp hm with hm | hm
    · exact h.apart m hlost hm
    · rw [List.mem_singleton.mp hm] at hlost
      exact hflight.2 hlost
  · rcases List.mem_append.mp hacked with hacked | hacked
    · exact h.front before e later hends m hm hacked d hd
    · rw [List.mem_singleton.mp hacked] at hm
      exact hnext before e later hends hm d hd

lemma Sound.step {s s' : Session} {act : Act} (h : Sound s) (hok : s.Spares act)
    (hs : s.step act = some s') : Sound s' := by
  cases act with
  | begin active =>
    cases hs
    exact h.agentTurn active
  | complete media followUp hasAudio control =>
    cases media with
    | none =>
      cases hs
      exact Sound.turnComplete (fun hc => ⟨(h hc).1, (h hc).2.2⟩) (fun m hm => by cases hm)
        (fun _ => h) hok _ _
    | some media =>
      simp only [Session.step] at hs
      split at hs
      next hnew =>
        cases hs
        have hlive : s.closed = false → Live { s with called := media :: s.called } := by
          intro hc
          have hl := (h hc).1
          refine ⟨hl.ended, fun e he m hm => ?_, hl.distinct, fun m hm hnc => ?_, hl.bound,
            hl.acked, hl.drained, hl.apart, hl.front⟩
          · obtain ⟨hcalled, hr⟩ := hl.queued e he m hm
            exact ⟨List.mem_cons_of_mem media hcalled, hr⟩
          · exact hl.fresh m hm fun hc => hnc (List.mem_cons_of_mem media hc)
        refine Sound.turnComplete (fun hc => ⟨hlive hc, (h hc).2.2⟩) ?_ ?_ hok _ _
        · intro m hm hclosed _
          cases hm
          have hl := (h hclosed).1
          exact ⟨List.mem_cons_self, hl.fresh media hnew.1 hnew.2,
            fun e he hem => hnew.2 (hl.queued e he media hem).1⟩
        · intro _ hclosed
          exact ⟨hlive hclosed, fun hq => ((h hclosed).2.1 hq).congr rfl rfl rfl, (h hclosed).2.2⟩
      next => cases hs
  | skipped =>
    cases hs
    exact h
  | botStarted =>
    cases hs
    exact h.congr rfl rfl rfl rfl rfl rfl rfl rfl rfl rfl rfl rfl rfl
  | botStopped =>
    cases hs
    unfold onBotStoppedSpeaking
    dsimp only
    split <;> exact h.congr rfl rfl rfl rfl rfl rfl rfl rfl rfl rfl rfl rfl rfl
  | idle control =>
    simp only [Session.step] at hs
    split at hs
    · cases hs
      unfold drainAfterIdle
      dsimp only
      split
      · exact h.congr rfl rfl rfl rfl rfl rfl rfl rfl rfl rfl rfl rfl rfl
      · split
        · refine Sound.of_drain fun hc => ⟨?_, fun he => ⟨hok hc he, (h hc).2.2⟩⟩
          exact (h hc).1.congr rfl rfl rfl rfl rfl rfl rfl rfl
        · exact h.congr rfl rfl rfl rfl rfl rfl rfl rfl rfl rfl rfl rfl rfl
    · cases hs
  | interruption =>
    cases hs
    unfold onInterruption
    split
    · exact h.congr rfl rfl rfl rfl rfl rfl rfl rfl rfl rfl rfl rfl rfl
    · exact h
  | outputDrained media control =>
    simp only [Session.step] at hs
    split at hs
    next hflight =>
      cases hs
      have hnext : s.closed = false → ∀ before e later, s.pendingEnds = before ++ e :: later →
          e.media = some media → ∀ d ∈ before, s.settled d = true := by
        intro hc before e later hends
        cases hended : s.endedNotified
        · exact (hok hc hended).2 before e later hends
        · rw [(h hc).1.ended hended] at hends
          cases before <;> cases hends
      unfold Session.outputDrained
      dsimp only
      split
      next hr =>
        refine Sound.of_drain fun hc => ⟨?_, fun he => ⟨(hok hc he).1, (h hc).2.2⟩⟩
        refine (h hc).1.acknowledge hflight (hnext hc) fun m hr' hm => ?_
        rcases List.mem_append.mp hm with hm | hm
        · exact List.mem_append_left _ ((h hc).1.drained m hr' hm)
        · exact List.mem_append_right _ hm
      next hr =>
        intro hc
        obtain ⟨hl, hblocked, hwhole⟩ := h hc
        have hnot : s.retains media = false := by
          have hr' : ¬ (s.retains media && !s.closed) = true := hr
          have hc' : s.closed = false := hc
          simpa [hc'] using hr'
        refine ⟨hl.acknowledge hflight (hnext hc) fun m hr' hm => ?_,
          fun hq => (hblocked hq).congr rfl rfl rfl, hwhole⟩
        rcases List.mem_append.mp hm with hm | hm
        · exact hl.drained m hr' hm
        · rw [List.mem_singleton.mp hm, hnot] at hr'
          cases hr'
    next => cases hs
  | lose media =>
    simp only [Session.step] at hs
    split at hs
    next hflight =>
      cases hs
      intro hc
      obtain ⟨hl, hblocked, hwhole⟩ := h hc
      refine ⟨⟨hl.ended, hl.queued, hl.distinct, hl.fresh, hl.bound, hl.acked, hl.drained,
        fun m hm => ?_, hl.front⟩, fun hq => (hblocked hq).congr rfl rfl rfl, hwhole⟩
      rcases List.mem_cons.mp hm with rfl | hm
      · simp only [inFlight, Bool.and_eq_true, Bool.not_eq_true', List.contains_eq_mem,
          decide_eq_false_iff_not] at hflight
        exact hflight.1.2
      · exact hl.apart m hm
    next => cases hs
  | resume control =>
    simp only [Session.step] at hs
    split at hs
    · cases hs
    · cases hs
      refine Sound.of_drain fun hc => ⟨?_, fun he => ⟨hok hc he, (h hc).2.2⟩⟩
      exact (h hc).1.congr rfl rfl rfl rfl rfl rfl rfl rfl
  | cancel =>
    simp only [Session.step] at hs
    split at hs
    · cases hs
    next hloops =>
      cases hs
      intro hc
      obtain ⟨hl, -, hwhole⟩ := h hc
      refine ⟨hl.congr rfl rfl rfl rfl rfl rfl rfl rfl, fun hq => ?_, hwhole⟩
      have hlast : s.loops = 1 := by
        have hq' : s.loops - 1 = 0 := hq
        omega
      cases hended : s.endedNotified
      · exact (hok hc hended hlast).congr rfl rfl rfl
      · intro e later hends
        have hends' : s.pendingEnds = e :: later := hends
        rw [hl.ended hended] at hends'
        cases hends'
  | notifyEnded =>
    cases hs
    unfold Session.notifyEnded
    split
    · exact h
    · intro hc
      have hl := (h hc).1
      refine ⟨⟨fun _ => rfl, fun e he => (by cases he), List.nodup_nil, hl.fresh, hl.bound,
        hl.acked, hl.drained, hl.apart, fun before e later hends => ?_⟩,
        fun _ e later he => (by cases he), fun he => (by cases he)⟩
      cases before <;> cases hends
  | close =>
    cases hs
    exact Sound.of_closed (closed_beginClose s)
  | closed ok =>
    simp only [Session.step] at hs
    split at hs
    next hc =>
      cases hs
      unfold endClose
      split
      · exact Sound.of_closed hc
      · exact Sound.of_closed hc
    next => cases hs

/-- An end at which nothing is left to wait for does not stay in front of the queue. -/
lemma Live.goes {s : Session} {e : End} {later : List End} (h : Live s) (hblocked : s.Blocked)
    (hends : s.pendingEnds = e :: later) : s.settled e = false := by
  have hnone := hblocked e later hends
  have hmem : e ∈ s.pendingEnds := hends ▸ List.mem_cons_self
  unfold settled
  cases hm : e.media with
  | some media =>
    by_contra hacked
    simp only [List.contains_eq_mem, Bool.not_eq_false, decide_eq_true_eq] at hacked
    have hdrained := h.drained media (h.queued e hmem media hm).2 hacked
    simp [letGo, hm, hdrained] at hnone
  | none =>
    by_contra haudio
    simp only [Bool.not_eq_false, Bool.not_eq_true'] at haudio
    simp [letGo, hm, haudio] at hnone

/-- The steps of a run, each of which meets a condition where it is taken. -/
def Runs (P : Session → Act → Prop) (s : Session) : List Act → Session → Prop
  | [], t => t = s
  | act :: acts, t => P s act ∧ ∃ s', s.step act = some s' ∧ Runs P s' acts t

lemma Sound.runs {s t : Session} {acts : List Act} (h : Sound s) (hr : Runs Spares s acts t) :
    Sound t := by
  induction acts generalizing s with
  | nil => exact hr ▸ h
  | cons act acts ih =>
    obtain ⟨hok, s', hs, hr⟩ := hr
    exact ih (h.step hok hs) hr

/-- The text of a turn is complete before a barge-in drops its marker; the next turn is spoken to
its end. -/
def bargeIn : List Act :=
  [.begin (some [97]), .complete (some 0) true true ⟨true, true⟩, .botStarted, .interruption,
    .lose 0, .botStopped, .begin (some [97]), .complete (some 1) true true ⟨true, true⟩,
    .botStarted, .botStopped, .outputDrained 1 ⟨true, true⟩, .idle ⟨true, true⟩]

end Session

end Vauxr.Voice.EndOfTurn
