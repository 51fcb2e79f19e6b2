import Vauxr.Devices.Config
import Vauxr.Lib.Run
import Vauxr.Voice.Segments

/-!
A turn of the pipeline from its text on (`run_text_turn` in `pipeline.py`), over its segmenter and
its segment queue, with the loop over a synthesizer (`speech/wyoming_tts.py`, `speech/openai.py`).

The coroutines of a turn take turns: a step runs one of them from a suspension to the next. A
step hands at most one frame to the output of the turn. Samples pass through unchanged here: the
resampler and the sequence numbers are left out.
-/

namespace Vauxr.Voice

open Vauxr.Lib Vauxr.Devices

/-! ### The follow-up tag -/

def followUpTag : Text := text "[[follow_up]]"

/-- What follows a tag at the front, the white space on both sides of it included. -/
def dropTag (t : Text) : Option Text :=
  let t := t.dropWhile Text.isSpace
  if followUpTag.isPrefixOf t then
    some ((t.drop followUpTag.length).dropWhile Text.isSpace)
  else none

/-- Tags replaced by a blank, from the left. The fuel is the length of the text. -/
def subTag : ℕ → Text → Text
  | fuel + 1, c :: t =>
    match dropTag (c :: t) with
    | some rest => 32 :: subTag fuel rest
    | none => c :: subTag fuel t
  | _, t => t

def stripFollowUpTagInline (t : Text) : Text := subTag t.length t

def stripFollowUpTag (t : Text) : Text := (stripFollowUpTagInline t).strip

structure FollowUpResult where
  followUp : Bool
  replyText : Text
  deriving DecidableEq

def asks (t : Text) : Bool := t.getLast?.any fun c => c = 0x3f || c = 0xff1f

def resolveFollowUp (fullReply : Text) (mode : FollowUpMode) : FollowUpResult :=
  let trimmed := fullReply.strip
  match mode with
  | .always => ⟨true, stripFollowUpTag trimmed⟩
  | .never => ⟨false, stripFollowUpTag trimmed⟩
  | .auto =>
    if followUpTag <:+: trimmed then ⟨true, stripFollowUpTag trimmed⟩
    else if asks trimmed then ⟨true, trimmed⟩
    else ⟨false, trimmed⟩

/-! ### Frames -/

inductive Frame
  | transcript (text : Text)
  | audioStart (sampleRate : ℕ)
  | audio (payload : List UInt8)
  | audioEnd (followUp : Bool)
  | error (code : String) (message : Text)
  deriving DecidableEq

def Frame.isError : Frame → Bool
  | .error .. => true
  | _ => false

def Frame.isAudio : Frame → Bool
  | .audio .. => true
  | _ => false

def Frame.isAudioStart : Frame → Bool
  | .audioStart .. => true
  | _ => false

def ttsError : Frame := .error "TTS_ERROR" (text "Selected speech provider unavailable")

/-! ### The synthesizer -/

inductive Adapter
  | wyoming | openai
  deriving DecidableEq

structure Synth where
  sourceRate : ℕ
  sampleRateFired : Bool
  stop : Bool
  deriving DecidableEq

/-- What comes in from the provider. A batch is what one read returns. -/
inductive Speech
  | audioStart (rate : Option ℕ)
  | audioChunk (rate : Option ℕ) (payload : List UInt8)
  | audioStop
  | batchEnd
  | failure

/-- What the loop over the synthesizer sees of it; `rate` is the argument of the callback, when
it is called. -/
inductive Heard
  | more (s : Synth)
  | chunk (s : Synth) (rate : Option ℕ) (payload : List UInt8)
  | finished
  | failed

def openaiRate : ℕ := 24000

def Synth.start : Adapter → Synth
  | .wyoming => ⟨0, false, false⟩
  | .openai => ⟨openaiRate, false, false⟩

def effectiveRate (targetRate : Option ℕ) (sourceRate : ℕ) : ℕ :=
  match targetRate with
  | some rate => if rate ≠ 0 ∧ rate ≠ sourceRate then rate else sourceRate
  | none => sourceRate

/-- The callback is called once, with the first chunk whose rate is known. -/
def Synth.ship (targetRate : Option ℕ) (s : Synth) (payload : List UInt8) : Heard :=
  if s.sampleRateFired = false ∧ s.sourceRate ≠ 0 then
    .chunk { s with sampleRateFired := true } (some (effectiveRate targetRate s.sourceRate)) payload
  else .chunk s none payload

def Synth.next (adapter : Adapter) (targetRate : Option ℕ) (aborted : Bool) (s : Synth) :
    Speech → Heard
  | .audioStart rate =>
    match adapter with
    | .wyoming => .more { s with sourceRate := rate.getD s.sourceRate }
    | .openai => .more s
  | .audioChunk rate payload =>
    match adapter with
    | .wyoming =>
      let s := if s.sourceRate = 0 then { s with sourceRate := rate.getD 0 } else s
      if payload.isEmpty then .more s else s.ship targetRate payload
    | .openai =>
      if aborted then .finished
      else if payload.isEmpty then .more s
      else s.ship targetRate payload
  | .audioStop => .more { s with stop := true }
  | .batchEnd => if s.stop || aborted then .finished else .more s
  | .failure => .failed

/-! ### The state of a turn -/

inductive Outcome
  | reply (text : Text)
  | failed (message : Text)
  | timeout
  deriving DecidableEq

/-- What the coroutine of the turn waits for: its first step, the transcription, the send of the
transcript or of an error (`checked` is whether the abort event is looked at behind `NO_AGENT`), the
chat of `_route_via_openclaw_direct` with its latest delta, the loop of `_synthesize_and_send` or of
`_synthesize_error_message` with its own `sent_start`, `response_done`, `queue.done()`, or the send
of the last frame. `raised` is behind an exception that has left the pipeline. -/
inductive Main
  | voice
  | transcribe
  | start
  | transcript
  | noAgent (checked : Bool)
  | chat (fullReply : Text)
  | backendError
  | speaking (result : FollowUpResult) (synth : Synth) (sentStart : Bool)
  | ttsError (result : FollowUpResult)
  | fallback (synth : Synth) (sentStart : Bool)
  | response
  | queueDone (outcome : Outcome)
  | last
  | done
  | raised
  deriving DecidableEq

/-- `tasks` are the scheduled sends, `sentStart` is the flag that the segments share; `synth` is the
call of `synthesize` in which the worker of the queue is, if any. -/
structure Turn where
  transcriptText : Text
  main : Main
  segmenter : Segments.Segmenter
  queue : Segments.Queue
  synth : Synth
  accumulated : Text
  responseDone : Option Outcome
  sentStart : Bool
  tasks : List Frame
  recorded : Option (Text × Text)
  deriving DecidableEq

def Turn.new (main : Main) (text : Text) : Turn where
  transcriptText := text
  main := main
  segmenter := ⟨[], true, false⟩
  queue := { Segments.Queue.new with closed := true, worker := .done }
  synth := ⟨0, false, false⟩
  accumulated := []
  responseDone := none
  sentStart := false
  tasks := []
  recorded := none

/-- Where a transcript goes: nowhere, to the gateway, or to the agent, which may be gone. -/
inductive Route
  | none
  | direct
  | agent (sent : Bool)

/-- What a step reads of the world: the abort event of the turn, the route, the settings. -/
structure TurnEnv where
  aborted : Bool
  route : Route
  followUpMode : FollowUpMode
  adapter : Adapter
  targetRate : Option ℕ
  idleEnabled : Bool

/-- What wakes a coroutine of the turn, or runs a callback: the end of what it waits for, an
exception that the pipeline does not handle, the gateway, the listener, the time-out of the wait for
the agent, the abort waiter, the timer of the segmenter, the queue, the provider behind the loop of
the turn or of the worker, and the loop of events that runs a scheduled send. -/
inductive TurnInput
  | resume
  | transcribed (result : Except Text Text)
  | raise
  | chatDelta (text : Text)
  | chatDone
  | chatFailed (message : Text)
  | onDelta (text : Text)
  | onEnd
  | onError (message : Text)
  | timeout
  | onAbort
  | flush
  | work (act : Segments.Act)
  | speech (event : Speech)
  | segmentSpeech (event : Speech)
  | task (i : ℕ)

/-- A turn on the WebSocket path: the segments are stripped before they are queued. -/
def spokenSetup (idleEnabled : Bool) : Segments.Setup := ⟨idleEnabled, stripFollowUpTagInline⟩

namespace Turn

/-! ### Segmenter and queue -/

def queueClose (t : Turn) : Turn := { t with queue := t.queue.close }

def onSegmentFlush (t : Turn) (raw : Text) : Turn :=
  let cleaned := stripFollowUpTagInline raw
  if cleaned.isEmpty then t else { t with queue := t.queue.push cleaned }

def segmenterPush (env : TurnEnv) (t : Turn) (text : Text) : Turn :=
  { t with segmenter := t.segmenter.push env.idleEnabled text }

def segmenterFlush (t : Turn) : Turn :=
  if !t.segmenter.timer then t
  else
    match t.segmenter.flush with
    | (segmenter, some raw) => { t with segmenter }.onSegmentFlush raw
    | (segmenter, none) => { t with segmenter }

/-- `segmenter.end`, with the `on_end` of the turn. -/
def segmenterEnd (t : Turn) : Turn :=
  match t.segmenter.finish with
  | (segmenter, some (some final)) => ({ t with segmenter }.onSegmentFlush final).queueClose
  | (segmenter, some none) => { t with segmenter }.queueClose
  | (segmenter, none) => { t with segmenter }

def segmenterAbort (t : Turn) : Turn := { t with segmenter := t.segmenter.abort }

/-! ### The listener -/

def pending (t : Turn) : Bool := t.main = .response && t.responseDone.isNone

def onDelta (env : TurnEnv) (t : Turn) (text : Text) : Turn :=
  if t.pending then { t with accumulated := t.accumulated ++ text }.segmenterPush env text else t

def onEnd (t : Turn) : Turn :=
  if t.pending then { t.segmenterEnd with responseDone := some (.reply t.accumulated) } else t

/-- `on_error`, and the callback of the abort waiter. -/
def fail (t : Turn) (message : Text) : Turn :=
  if t.pending then
    { t.segmenterAbort.queueClose with responseDone := some (.failed message) }
  else t

def timeout (t : Turn) : Turn :=
  if t.pending then
    { t.segmenterAbort.queueClose with
      responseDone := some .timeout
      main := .queueDone .timeout }
  else t

/-! ### The coroutines -/

def schedule (t : Turn) (frame : Frame) : Turn := { t with tasks := t.tasks ++ [frame] }

def onRate (t : Turn) (rate : Option ℕ) (sentStart : Bool) : Turn :=
  match rate with
  | some rate => if sentStart then t else t.schedule (.audioStart rate)
  | none => t

def runTextTurn (env : TurnEnv) (t : Turn) (transcriptText : Text) : Turn × Option Frame :=
  if env.aborted then ({ t with main := .done }, none)
  else
    let transcriptText := transcriptText.strip
    if transcriptText.isEmpty then ({ t with main := .last }, some (.audioEnd false))
    else ({ t with transcriptText, main := .transcript }, some (.transcript transcriptText))

def route (env : TurnEnv) (t : Turn) : Turn × Option Frame :=
  match env.route with
  | .none =>
    ({ t with main := .noAgent false },
      some (.error "NO_AGENT" (text "No active agent configured")))
  | .direct => ({ t with main := .chat [] }, none)
  | .agent false =>
    ({ t with main := .noAgent true },
      some (.error "NO_AGENT" (text "Active agent not connected")))
  | .agent true =>
    ({ t with main := .response, segmenter := .new, queue := .new }, none)

def complete (env : TurnEnv) (t : Turn) (result : FollowUpResult) : Turn × Option Frame :=
  if env.aborted then ({ t with main := .done }, none)
  else
    ({ t with main := .last, recorded := some (t.transcriptText, result.replyText) },
      some (.audioEnd result.followUp))

def giveUp (env : TurnEnv) (t : Turn) : Turn × Option Frame :=
  if env.aborted then ({ t with main := .done }, none)
  else ({ t with main := .last }, some (.audioEnd false))

def queueIsDone (env : TurnEnv) (t : Turn) (outcome : Outcome) : Turn × Option Frame :=
  if env.aborted then ({ t with main := .done }, none)
  else
    match outcome with
    | .reply fullReply => t.complete env (resolveFollowUp fullReply env.followUpMode)
    | .failed message => ({ t with main := .backendError }, some (.error "BACKEND_ERROR" message))
    | .timeout =>
      ({ t with main := .backendError },
        some (.error "BACKEND_ERROR" (text "Agent response timeout after 300s")))

def resume (env : TurnEnv) (t : Turn) : Turn × Option Frame :=
  match t.main with
  | .voice => ({ t with main := if env.aborted then .done else .transcribe }, none)
  | .start => t.runTextTurn env t.transcriptText
  | .transcript => if env.aborted then ({ t with main := .done }, none) else t.route env
  | .noAgent checked =>
    if checked && env.aborted then ({ t with main := .done }, none)
    else ({ t with main := .last }, some (.audioEnd false))
  | .backendError => ({ t with main := .fallback (Synth.start env.adapter) false }, none)
  | .ttsError result => t.complete env result
  | .response =>
    match t.responseDone with
    | some outcome => ({ t with main := .queueDone outcome }, none)
    | none => (t, none)
  | .queueDone outcome => if t.queue.worker = .done then t.queueIsDone env outcome else (t, none)
  | .last => ({ t with main := .done }, none)
  | .transcribe | .chat _ | .speaking .. | .fallback .. | .done | .raised => (t, none)

def transcribed (env : TurnEnv) (t : Turn) (result : Except Text Text) : Turn × Option Frame :=
  match t.main, result with
  | .transcribe, .error message => ({ t with main := .last }, some (.error "STT_ERROR" message))
  | .transcribe, .ok transcriptText =>
    if env.aborted then ({ t with main := .done }, none)
    else if transcriptText.strip.isEmpty then ({ t with main := .last }, some (.audioEnd false))
    else t.runTextTurn env transcriptText
  | _, _ => (t, none)

def chatDone (env : TurnEnv) (t : Turn) : Turn × Option Frame :=
  match t.main with
  | .chat fullReply =>
    if env.aborted then ({ t with main := .done }, none)
    else
      let result := resolveFollowUp fullReply env.followUpMode
      if result.replyText.isEmpty then t.complete env result
      else ({ t with main := .speaking result (Synth.start env.adapter) false }, none)
  | _ => (t, none)

def chatFailed (t : Turn) (message : Text) : Turn × Option Frame :=
  match t.main with
  | .chat _ => ({ t with main := .backendError }, some (.error "BACKEND_ERROR" message))
  | _ => (t, none)

/-- The provider speaks to `_synthesize_and_send` or `_synthesize_error_message`. -/
def speech (env : TurnEnv) (t : Turn) (event : Speech) : Turn × Option Frame :=
  match t.main with
  | .speaking result synth sentStart =>
    match synth.next env.adapter env.targetRate env.aborted event with
    | .more synth => ({ t with main := .speaking result synth sentStart }, none)
    | .chunk synth rate payload =>
      let t := t.onRate rate sentStart
      if env.aborted then ({ t with main := .done }, none)
      else
        ({ t with main := .speaking result synth (sentStart || rate.isSome) },
          some (.audio payload))
    | .finished => t.complete env result
    | .failed => ({ t with main := .ttsError result }, some ttsError)
  | .fallback synth sentStart =>
    match synth.next env.adapter env.targetRate env.aborted event with
    | .more synth => ({ t with main := .fallback synth sentStart }, none)
    | .chunk synth rate payload =>
      let t := t.onRate rate sentStart
      if env.aborted then ({ t with main := .done }, none)
      else
        ({ t with main := .fallback synth (sentStart || rate.isSome) }, some (.audio payload))
    | .finished | .failed => t.giveUp env
  | _ => (t, none)

/-- The worker goes on, and finds the abort event set if it is; the call that it may begin is a new
one. -/
def goOn (env : TurnEnv) (t : Turn) (act : Segments.Act) : Turn :=
  match (if env.aborted then t.queue.setAbort else t.queue).work act with
  | some queue => { t with queue, synth := Synth.start env.adapter }
  | none => t

/-- A step of the worker, or of a task it waits for; a call of `synthesize` ends by what the
provider says. -/
def work (env : TurnEnv) (t : Turn) : Segments.Act → Turn
  | .synthesized _ => t
  | act => t.goOn env act

/-- The provider speaks to `synth_segment`. -/
def segmentSpeech (env : TurnEnv) (t : Turn) (event : Speech) : Turn × Option Frame :=
  match t.queue.worker with
  | .synthesizing _ =>
    match t.synth.next env.adapter env.targetRate env.aborted event with
    | .more synth => ({ t with synth }, none)
    | .chunk synth rate payload =>
      let t := { t.onRate rate t.sentStart with sentStart := t.sentStart || rate.isSome }
      if env.aborted then (t.goOn env (.synthesized true), none)
      else ({ t with synth }, some (.audio payload))
    | .finished => (t.goOn env (.synthesized true), none)
    | .failed => ((t.schedule ttsError).goOn env (.synthesized false), none)
  | _ => (t, none)

/-- An exception is on its way out of the pipeline, unless the turn has sent its last frame. The
queue is closed, and its worker is waited for. -/
def raise (t : Turn) : Turn :=
  match t.main with
  | .last | .done => t
  | _ => { t.segmenterAbort.queueClose with main := .raised }

/-- One step of a turn, with the frame that it hands to its output. -/
def step (env : TurnEnv) (t : Turn) : TurnInput → Turn × Option Frame
  | .resume => t.resume env
  | .transcribed result => t.transcribed env result
  | .raise => (t.raise, none)
  | .chatDelta text =>
    match t.main with
    | .chat _ => ({ t with main := .chat text }, none)
    | _ => (t, none)
  | .chatDone => t.chatDone env
  | .chatFailed message => t.chatFailed message
  | .onDelta text => (t.onDelta env text, none)
  | .onEnd => (t.onEnd, none)
  | .onError message => (t.fail message, none)
  | .timeout => (t.timeout, none)
  | .onAbort => (if env.aborted then t.fail (text "Aborted") else t, none)
  | .flush => (t.segmenterFlush, none)
  | .work act => (t.work env act, none)
  | .speech event => t.speech env event
  | .segmentSpeech event => t.segmentSpeech env event
  | .task i => ({ t with tasks := t.tasks.eraseIdx i }, t.tasks[i]?)

/-! ### Segmenter and queue of a turn -/

/-- What the segmenter and the queue of `t` come to in `t'` is a run of the two together. -/
def Drives (idleEnabled : Bool) (t t' : Turn) : Prop :=
  ∀ pushed, ∃ acts pushed',
    (⟨t.segmenter, t.queue, pushed⟩ : Segments.State).run (spokenSetup idleEnabled) acts =
      some ⟨t'.segmenter, t'.queue, pushed'⟩

variable {idleEnabled : Bool} {env : TurnEnv} {t t' t'' : Turn}

lemma Drives.same (hs : t'.segmenter = t.segmenter) (hq : t'.queue = t.queue) :
    Drives idleEnabled t t' := by
  intro pushed
  refine ⟨[], pushed, ?_⟩
  rw [hs, hq]
  rfl

lemma Drives.trans (h : Drives idleEnabled t t') (h' : Drives idleEnabled t' t'') :
    Drives idleEnabled t t'' := by
  intro pushed
  obtain ⟨acts, pushed', hacts⟩ := h pushed
  obtain ⟨more, pushed'', hmore⟩ := h' pushed'
  refine ⟨acts ++ more, pushed'', ?_⟩
  rw [Segments.State.run_append, hacts]
  exact hmore

lemma Drives.act (act : Segments.Act) (h : ∀ pushed, ∃ pushed',
    (⟨t.segmenter, t.queue, pushed⟩ : Segments.State).step (spokenSetup idleEnabled) act =
      some ⟨t'.segmenter, t'.queue, pushed'⟩) : Drives idleEnabled t t' := by
  intro pushed
  obtain ⟨pushed', hstep⟩ := h pushed
  exact ⟨[act], pushed', by rw [Segments.State.run_single, hstep]⟩

lemma onSegmentFlush_eq (t : Turn) (raw : Text) :
    t.onSegmentFlush raw = { t with queue := t.queue.push (stripFollowUpTagInline raw) } := by
  unfold onSegmentFlush
  dsimp only
  split
  next hempty =>
    have hpush : t.queue.push (stripFollowUpTagInline raw) = t.queue := by
      unfold Segments.Queue.push
      rw [if_pos (by simp [hempty])]
    rw [hpush]
  next => rfl

lemma drives_segmenterFlush (t : Turn) : Drives idleEnabled t t.segmenterFlush := by
  unfold segmenterFlush
  split
  next => exact .same rfl rfl
  next htimer =>
    have htimer : t.segmenter.timer = true := by simpa using htimer
    split
    next segmenter raw hflush =>
      rw [onSegmentFlush_eq]
      refine .act .pause fun pushed => ⟨pushed, ?_⟩
      simp [Segments.State.step, Segments.State.onSegment, spokenSetup, htimer, hflush]
    next segmenter hflush =>
      refine .act .pause fun pushed => ⟨pushed, ?_⟩
      simp [Segments.State.step, htimer, hflush]

lemma drives_segmenterEnd (t : Turn) : Drives idleEnabled t t.segmenterEnd := by
  refine .act .finish fun pushed => ⟨pushed, ?_⟩
  unfold segmenterEnd
  split
  next segmenter final hfinish =>
    rw [onSegmentFlush_eq]
    simp [Segments.State.step, Segments.State.onEnd, Segments.State.onSegment, spokenSetup, hfinish,
      queueClose]
  next segmenter hfinish =>
    simp [Segments.State.step, Segments.State.onEnd, hfinish, queueClose]
  next segmenter hfinish => simp [Segments.State.step, hfinish]

lemma drives_giveUp (t : Turn) : Drives idleEnabled t t.segmenterAbort.queueClose :=
  .act .giveUp fun pushed => ⟨pushed, rfl⟩

lemma drives_onDelta (t : Turn) (text : Text) : Drives env.idleEnabled t (t.onDelta env text) := by
  unfold onDelta
  split
  next => exact .act (.push text) fun pushed => ⟨_, rfl⟩
  next => exact .same rfl rfl

lemma drives_onEnd (t : Turn) : Drives idleEnabled t t.onEnd := by
  unfold onEnd
  split
  next => exact (drives_segmenterEnd t).trans (.same rfl rfl)
  next => exact .same rfl rfl

lemma drives_fail (t : Turn) (message : Text) : Drives idleEnabled t (t.fail message) := by
  unfold fail
  split
  next => exact (drives_giveUp t).trans (.same rfl rfl)
  next => exact .same rfl rfl

lemma drives_goOn (t : Turn) (act : Segments.Act) (ha : act.ofWorker = true) :
    Drives idleEnabled t (t.goOn env act) := by
  have hstep : ∀ (q q' : Segments.Queue) (pushed : Text), q.work act = some q' →
      (⟨t.segmenter, q, pushed⟩ : Segments.State).step (spokenSetup idleEnabled) act =
        some ⟨t.segmenter, q', pushed⟩ := by
    intro q q' pushed hq
    cases act <;> simp [Segments.State.step, Segments.Act.ofWorker, hq] at ha ⊢
  unfold goOn
  split
  next queue hwork =>
    have hmoved : Drives idleEnabled
        { t with queue := if env.aborted then t.queue.setAbort else t.queue }
        { t with queue, synth := Synth.start env.adapter } :=
      .act act fun pushed => ⟨pushed, hstep _ _ pushed hwork⟩
    refine Drives.trans ?_ hmoved
    split
    next => exact .act .abort fun pushed => ⟨pushed, rfl⟩
    next => exact .same rfl rfl
  next => exact .same rfl rfl

lemma drives_work (t : Turn) (act : Segments.Act) : Drives idleEnabled t (t.work env act) := by
  cases ha : act.ofWorker with
  | true =>
    cases act with
    | synthesized => exact .same rfl rfl
    | _ => exact drives_goOn t _ ha
  | false =>
    have hnone : ∀ q : Segments.Queue, q.work act = none := by
      intro q
      cases act <;> first | rfl | cases ha
    have hsame : t.work env act = t := by
      cases act <;> simp [work, goOn, hnone]
    rw [hsame]
    exact .same rfl rfl

lemma drives_segmentSpeech (t : Turn) (event : Speech) :
    Drives idleEnabled t (t.segmentSpeech env event).1 := by
  unfold segmentSpeech
  split
  next segment hw =>
    split
    next => exact .same rfl rfl
    next synth rate payload hc =>
      have hrate : Drives idleEnabled t
          { t.onRate rate t.sentStart with sentStart := t.sentStart || rate.isSome } := by
        unfold onRate
        split
        · split
          · exact .same rfl rfl
          · exact .same rfl rfl
        · exact .same rfl rfl
      dsimp only
      split
      · exact hrate.trans (drives_goOn _ _ rfl)
      · exact hrate.trans (.same rfl rfl)
    next => exact drives_goOn t _ rfl
    next =>
      have hscheduled : Drives idleEnabled t (t.schedule ttsError) := .same rfl rfl
      exact hscheduled.trans (drives_goOn _ _ rfl)
  next => exact .same rfl rfl

lemma runTextTurn_keeps (text : Text) : (t.runTextTurn env text).1.segmenter = t.segmenter ∧
    (t.runTextTurn env text).1.queue = t.queue := by
  unfold runTextTurn
  dsimp only
  split
  · exact ⟨rfl, rfl⟩
  · split <;> exact ⟨rfl, rfl⟩

lemma queueIsDone_keeps (outcome : Outcome) :
    (t.queueIsDone env outcome).1.segmenter = t.segmenter ∧
      (t.queueIsDone env outcome).1.queue = t.queue := by
  unfold queueIsDone complete
  split
  · exact ⟨rfl, rfl⟩
  · split <;> exact ⟨rfl, rfl⟩

/-- The coroutine of the turn leaves segmenter and queue alone, but where it makes them. -/
lemma resume_keeps (hm : t.main ≠ .transcript) : (t.resume env).1.segmenter = t.segmenter ∧
    (t.resume env).1.queue = t.queue := by
  cases hmain : t.main with
  | transcript => exact absurd hmain hm
  | start =>
    simp only [resume, hmain]
    exact runTextTurn_keeps _
  | noAgent checked =>
    simp only [resume, hmain]
    split <;> exact ⟨rfl, rfl⟩
  | ttsError result =>
    simp only [resume, hmain, complete]
    split <;> exact ⟨rfl, rfl⟩
  | response =>
    simp only [resume, hmain]
    split <;> exact ⟨rfl, rfl⟩
  | queueDone outcome =>
    simp only [resume, hmain]
    split
    · exact queueIsDone_keeps outcome
    · exact ⟨rfl, rfl⟩
  | _ => simp [resume, hmain]

lemma transcribed_keeps (result : Except Text Text) :
    (t.transcribed env result).1.segmenter = t.segmenter ∧
      (t.transcribed env result).1.queue = t.queue := by
  unfold transcribed
  split
  · exact ⟨rfl, rfl⟩
  · split
    · exact ⟨rfl, rfl⟩
    · split
      · exact ⟨rfl, rfl⟩
      · exact runTextTurn_keeps _
  · exact ⟨rfl, rfl⟩

lemma chatDone_keeps : (t.chatDone env).1.segmenter = t.segmenter ∧
    (t.chatDone env).1.queue = t.queue := by
  unfold chatDone complete
  dsimp only
  split
  · split
    · exact ⟨rfl, rfl⟩
    · split <;> exact ⟨rfl, rfl⟩
  · exact ⟨rfl, rfl⟩

lemma onRate_keeps (rate : Option ℕ) (sentStart : Bool) :
    (t.onRate rate sentStart).segmenter = t.segmenter ∧
      (t.onRate rate sentStart).queue = t.queue := by
  unfold onRate
  split
  · split <;> exact ⟨rfl, rfl⟩
  · exact ⟨rfl, rfl⟩

lemma speech_keeps (event : Speech) : (t.speech env event).1.segmenter = t.segmenter ∧
    (t.speech env event).1.queue = t.queue := by
  unfold speech complete giveUp
  dsimp only
  repeat' split
  all_goals first | exact ⟨rfl, rfl⟩ | exact onRate_keeps _ _

/-- **The segmenter and the queue of a turn run as the two together.** -/
theorem step_drives (hm : t.main ≠ .transcript) (input : TurnInput) :
    Drives env.idleEnabled t (t.step env input).1 := by
  cases input with
  | resume => exact .same (resume_keeps hm).1 (resume_keeps hm).2
  | transcribed result => exact .same (transcribed_keeps result).1 (transcribed_keeps result).2
  | raise =>
    simp only [step, raise]
    split
    · exact .same rfl rfl
    · exact .same rfl rfl
    · exact (drives_giveUp t).trans (.same rfl rfl)
  | chatDelta text =>
    simp only [step]
    split
    · exact .same rfl rfl
    · exact .same rfl rfl
  | chatDone => exact .same chatDone_keeps.1 chatDone_keeps.2
  | chatFailed message =>
    simp only [step, chatFailed]
    split
    · exact .same rfl rfl
    · exact .same rfl rfl
  | onDelta text => exact drives_onDelta t text
  | onEnd => exact drives_onEnd t
  | onError message => exact drives_fail t message
  | timeout =>
    simp only [step, timeout]
    split
    · exact (drives_giveUp t).trans (.same rfl rfl)
    · exact .same rfl rfl
  | onAbort =>
    simp only [step]
    split
    · exact drives_fail t _
    · exact .same rfl rfl
  | flush => exact drives_segmenterFlush t
  | work act => exact drives_work t act
  | speech event => exact .same (speech_keeps event).1 (speech_keeps event).2
  | segmentSpeech event => exact drives_segmentSpeech t event
  | task i => exact .same rfl rfl

/-- **A turn behind its route runs them so to its end.** -/
theorem after_drives {acts : List (TurnEnv × TurnInput)}
    (h : Throughout (fun t e => (t.step e.1 e.2).1)
      (fun (t : Turn) e => t.main ≠ .transcript ∧ e.1.idleEnabled = idleEnabled) t acts) :
    Drives idleEnabled t (after (fun t e => (t.step e.1 e.2).1) t acts) := by
  induction acts generalizing t with
  | nil => exact .same rfl rfl
  | cons e acts ih =>
    obtain ⟨⟨hm, henv⟩, hrest⟩ := h
    exact (henv ▸ step_drives hm e.2).trans (ih hrest)

end Turn

end Vauxr.Voice
