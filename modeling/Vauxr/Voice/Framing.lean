import Vauxr.Lib.Run
import Vauxr.Voice.Pipeline

/-!
The frames of a turn that is not aborted.

Every loop over the synthesizer schedules `audio.start` in the step in which it sends its first
chunk, and a scheduled send runs in a later step. So the first chunk is always sent before
`audio.start`, and the frames of a turn are in order exactly when it speaks no sample.
-/

namespace Vauxr.Voice

open Vauxr.Lib

/-- The transcript; then, if there is audio, one `audio.start` and the audio behind it; then one
`audio.end`. Errors may stand anywhere. -/
def Framed (transcriptText : Text) (frames : List Frame) : Prop :=
  ∃ (audio : List Frame) (followUp : Bool),
    frames.filter (!·.isError) = .transcript transcriptText :: (audio ++ [.audioEnd followUp]) ∧
    (audio = [] ∨ ∃ (rate : ℕ) (payloads : List (List UInt8)), payloads ≠ [] ∧
      audio = .audioStart rate :: payloads.map Frame.audio)

/-- A step of a turn; `passes` tells whether its output lets a frame through. -/
structure Beat where
  env : TurnEnv
  passes : Bool
  input : TurnInput

def Frame.isAudioEnd : Frame → Bool
  | .audioEnd .. => true
  | _ => false

/-- A turn, and the frames sent on its socket. -/
structure Played where
  turn : Turn
  sent : List Frame

def Played.step (p : Played) (b : Beat) : Played :=
  let (turn, frame) := p.turn.step b.env b.input
  ⟨turn, if b.passes then p.sent ++ frame.toList else p.sent⟩

/-- The turn enters `run_text_turn`. -/
def Played.enter (transcriptText : Text) : Played := ⟨.new .start transcriptText, []⟩

/-- The turn is not aborted, and the socket takes what it sends. -/
def Beat.Steady (b : Beat) : Prop := b.env.aborted = false ∧ b.passes = true

/-- A chunk with samples. -/
def Speech.samples : Speech → Bool
  | .audioChunk _ payload => !payload.isEmpty
  | _ => false

/-- A provider delivers samples to a loop of the turn. -/
def Turn.hears (t : Turn) : TurnInput → Bool
  | .speech event =>
    event.samples &&
      match t.main with
      | .speaking .. | .fallback .. => true
      | _ => false
  | .segmentSpeech event =>
    event.samples &&
      match t.queue.worker with
      | .synthesizing _ => true
      | _ => false
  | _ => false

/-- An exception leaves the pipeline before its last frame. -/
def Turn.breaks (t : Turn) : TurnInput → Bool
  | .raise => t.main ≠ .last && t.main ≠ .done
  | _ => false

/-- No samples, and no exception. -/
def Played.Silent (p : Played) (b : Beat) : Prop :=
  p.turn.hears b.input = false ∧ p.turn.breaks b.input = false

/-! ### The synthesizer -/

lemma Synth.next_ne_chunk {adapter : Adapter} {targetRate : Option ℕ} {aborted : Bool}
    {s : Synth} {event : Speech} (h : event.samples = false) (s' : Synth) (rate : Option ℕ)
    (payload : List UInt8) : s.next adapter targetRate aborted event ≠ .chunk s' rate payload := by
  cases event with
  | audioChunk r p =>
    have hp : p = [] := by simpa [Speech.samples] using h
    subst hp
    cases adapter <;> cases aborted <;> simp [Synth.next]
  | audioStart => cases adapter <;> simp [Synth.next]
  | audioStop => simp [Synth.next]
  | batchEnd =>
    simp only [Synth.next]
    split <;> simp
  | failure => simp [Synth.next]

lemma Synth.ship_chunk (targetRate : Option ℕ) (s : Synth) (payload : List UInt8) :
    ∃ s' rate, s.ship targetRate payload = .chunk s' rate payload := by
  unfold Synth.ship
  split <;> exact ⟨_, _, rfl⟩

lemma Synth.next_chunk (adapter : Adapter) (targetRate : Option ℕ) (s : Synth) {event : Speech}
    (h : event.samples = true) : ∃ s' rate payload,
      s.next adapter targetRate false event = .chunk s' rate payload := by
  cases event with
  | audioChunk r p =>
    have hp : p.isEmpty = false := by simpa [Speech.samples] using h
    cases adapter with
    | wyoming =>
      obtain ⟨s', rate, hs⟩ := Synth.ship_chunk targetRate
        (if s.sourceRate = 0 then { s with sourceRate := r.getD 0 } else s) p
      exact ⟨s', rate, p, by simp [Synth.next, hp, hs]⟩
    | openai =>
      obtain ⟨s', rate, hs⟩ := Synth.ship_chunk targetRate s p
      exact ⟨s', rate, p, by simp [Synth.next, hp, hs]⟩
  | audioStart | audioStop | batchEnd | failure => cases h

/-! ### What a step leaves alone -/

namespace Turn

/-- The coroutine and the scheduled sends stand where they stood. -/
structure Same (t t' : Turn) : Prop where
  main : t'.main = t.main
  tasks : t'.tasks = t.tasks
  text : t'.transcriptText = t.transcriptText

variable {t : Turn} {env : TurnEnv}

lemma Same.refl (t : Turn) : Same t t := ⟨rfl, rfl, rfl⟩

lemma Same.trans {t t' t'' : Turn} (h : Same t t') (h' : Same t' t'') : Same t t'' :=
  ⟨h'.main.trans h.main, h'.tasks.trans h.tasks, h'.text.trans h.text⟩

lemma same_onSegmentFlush (t : Turn) (raw : Text) : Same t (t.onSegmentFlush raw) := by
  simp only [onSegmentFlush]
  split
  · exact .refl t
  · exact ⟨rfl, rfl, rfl⟩

lemma same_segmenterPush (t : Turn) (text : Text) : Same t (t.segmenterPush env text) :=
  ⟨rfl, rfl, rfl⟩

lemma same_segmenterFlush (t : Turn) : Same t t.segmenterFlush := by
  unfold segmenterFlush
  split
  · exact .refl t
  · split
    · next segmenter raw _ =>
      have h : Same t { t with segmenter } := ⟨rfl, rfl, rfl⟩
      exact h.trans (same_onSegmentFlush _ raw)
    · exact ⟨rfl, rfl, rfl⟩

lemma same_segmenterEnd (t : Turn) : Same t t.segmenterEnd := by
  unfold segmenterEnd
  split
  · next segmenter final _ =>
    have h : Same t { t with segmenter } := ⟨rfl, rfl, rfl⟩
    have hf := h.trans (same_onSegmentFlush _ final)
    exact ⟨hf.main, hf.tasks, hf.text⟩
  · exact ⟨rfl, rfl, rfl⟩
  · exact ⟨rfl, rfl, rfl⟩

lemma same_segmenterAbort (t : Turn) : Same t t.segmenterAbort := ⟨rfl, rfl, rfl⟩

lemma same_onDelta (t : Turn) (text : Text) : Same t (t.onDelta env text) := by
  unfold onDelta
  split
  · have h : Same t { t with accumulated := t.accumulated ++ text } := ⟨rfl, rfl, rfl⟩
    exact h.trans (same_segmenterPush _ _)
  · exact .refl t

lemma same_onEnd (t : Turn) : Same t t.onEnd := by
  unfold onEnd
  split
  · have h := same_segmenterEnd t
    exact ⟨h.main, h.tasks, h.text⟩
  · exact .refl t

lemma same_fail (t : Turn) (message : Text) : Same t (t.fail message) := by
  unfold fail
  split
  · have h := same_segmenterAbort t
    exact ⟨h.main, h.tasks, h.text⟩
  · exact .refl t

lemma same_goOn (env : TurnEnv) (t : Turn) (act : Segments.Act) : Same t (t.goOn env act) := by
  unfold goOn
  split
  · exact ⟨rfl, rfl, rfl⟩
  · exact .refl t

lemma same_work (t : Turn) (act : Segments.Act) : Same t (t.work env act) := by
  unfold work
  split
  · exact .refl t
  · exact same_goOn _ t _

lemma timeout_spec (t : Turn) : t.timeout = t ∨
    t.main = .response ∧ t.timeout.main = .queueDone .timeout ∧ t.timeout.tasks = t.tasks ∧
      t.timeout.transcriptText = t.transcriptText := by
  unfold timeout
  split
  · next hp =>
    have h := same_segmenterAbort t
    have hm : t.main = .response := by
      simp only [pending, Bool.and_eq_true, decide_eq_true_eq] at hp
      exact hp.1
    exact Or.inr ⟨hm, rfl, h.tasks, h.text⟩
  · exact Or.inl rfl

lemma onRate_tasks (t : Turn) (rate : Option ℕ) (sentStart : Bool) :
    (t.onRate rate sentStart).tasks = t.tasks ∨
      ∃ r, (t.onRate rate sentStart).tasks = t.tasks ++ [.audioStart r] := by
  unfold onRate
  split
  · split
    · exact Or.inl rfl
    · exact Or.inr ⟨_, rfl⟩
  · exact Or.inl rfl

/-! ### Phases of a turn -/

/-- Before its transcript, before its last frame, behind it; and outside of all these. -/
inductive Phase
  | entry | body | over | outside
  deriving DecidableEq

def phase (t : Turn) : Phase :=
  match t.main with
  | .start => .entry
  | .last | .done => .over
  | .voice | .transcribe | .raised => .outside
  | _ => .body

lemma Same.phase {t t' : Turn} (h : Same t t') : t'.phase = t.phase := by
  unfold Turn.phase
  rw [h.main]

/-- What a step without samples does in a turn that is not aborted. -/
inductive Advance (t t' : Turn) : Option Frame → Prop
  | stay (hp : t'.phase = t.phase) (ht : t'.transcriptText = t.transcriptText)
      (hs : t'.tasks = t.tasks ∨ t'.tasks = t.tasks ++ [ttsError]) : Advance t t' none
  | error (hp : t'.phase = t.phase) (ht : t'.transcriptText = t.transcriptText)
      (hs : t'.tasks = t.tasks) (code : String) (message : Text) :
      Advance t t' (some (.error code message))
  | task (i : ℕ) (hp : t'.phase = t.phase) (ht : t'.transcriptText = t.transcriptText)
      (hs : t'.tasks = t.tasks.eraseIdx i) : Advance t t' t.tasks[i]?
  | transcript (hp : t.phase = .entry) (hp' : t'.phase = .body) (hs : t'.tasks = t.tasks)
      (ht : t'.transcriptText = t.transcriptText.strip) :
      Advance t t' (some (.transcript t.transcriptText.strip))
  | audioEnd (hp : t.phase = .body) (hp' : t'.phase = .over) (hs : t'.tasks = t.tasks)
      (ht : t'.transcriptText = t.transcriptText) (followUp : Bool) :
      Advance t t' (some (.audioEnd followUp))

lemma Same.advance {t t' : Turn} (h : Same t t') : Advance t t' none :=
  .stay h.phase h.text (Or.inl h.tasks)

/-- The coroutine moves within its phase. -/
lemma advance_main (m : Main) (h : { t with main := m }.phase = t.phase) :
    Advance t { t with main := m } none :=
  .stay h rfl (Or.inl rfl)

lemma advance_error (m : Main) (h : { t with main := m }.phase = t.phase) (code : String)
    (message : Text) : Advance t { t with main := m } (some (.error code message)) :=
  .error h rfl rfl code message

lemma advance_last (hp : t.phase = .body) (followUp : Bool) :
    Advance t { t with main := .last } (some (.audioEnd followUp)) := by
  refine .audioEnd hp ?_ ?_ ?_ followUp <;> rfl

section Steps

variable (ha : env.aborted = false) (ht : t.transcriptText.strip ≠ [])

include ha

lemma complete_advance (hp : t.phase = .body) (result : FollowUpResult) :
    Advance t (t.complete env result).1 (t.complete env result).2 := by
  simp only [complete, ha, Bool.false_eq_true, if_false]
  refine .audioEnd hp ?_ ?_ ?_ result.followUp <;> rfl

lemma giveUp_advance (hp : t.phase = .body) : Advance t (t.giveUp env).1 (t.giveUp env).2 := by
  simp only [giveUp, ha, Bool.false_eq_true, if_false]
  exact advance_last hp false

lemma queueIsDone_advance (hp : t.phase = .body) (outcome : Outcome) :
    Advance t (t.queueIsDone env outcome).1 (t.queueIsDone env outcome).2 := by
  simp only [queueIsDone, ha, Bool.false_eq_true, if_false]
  cases outcome with
  | reply fullReply => exact complete_advance ha hp _
  | failed message => exact advance_error .backendError hp.symm _ _
  | timeout => exact advance_error .backendError hp.symm _ _

omit ha in
lemma route_advance (hp : t.phase = .body) : Advance t (t.route env).1 (t.route env).2 := by
  unfold route
  split
  · exact advance_error (.noAgent false) hp.symm _ _
  · exact advance_main (.chat []) hp.symm
  · exact advance_error (.noAgent true) hp.symm _ _
  · refine .stay hp.symm ?_ (Or.inl ?_) <;> rfl

include ht in
lemma resume_advance (hp : t.phase ≠ .outside) :
    Advance t (t.resume env).1 (t.resume env).2 := by
  have hbody : ∀ {m : Main}, t.main = m →
      (match m with
        | .start => Phase.entry
        | .last | .done => .over
        | .voice | .transcribe | .raised => .outside
        | _ => .body) = .body → t.phase = .body := by
    intro m hm h
    rw [phase, hm]
    exact h
  cases hm : t.main with
  | start =>
    have hne : t.transcriptText.strip.isEmpty = false := by simpa using ht
    simp only [resume, hm, runTextTurn, ha, hne, Bool.false_eq_true, if_false]
    have hp' : t.phase = .entry := by rw [phase, hm]
    refine .transcript hp' ?_ ?_ ?_ <;> rfl
  | transcript =>
    simp only [resume, hm, ha, Bool.false_eq_true, if_false]
    exact route_advance (hbody hm rfl)
  | noAgent checked =>
    simp only [resume, hm, ha, Bool.and_false, Bool.false_eq_true, if_false]
    exact advance_last (hbody hm rfl) false
  | backendError =>
    simp only [resume, hm]
    exact advance_main (.fallback _ _) (hbody hm rfl).symm
  | ttsError result =>
    simp only [resume, hm]
    exact complete_advance ha (hbody hm rfl) result
  | response =>
    simp only [resume, hm]
    split
    · next outcome _ => exact advance_main (.queueDone outcome) (hbody hm rfl).symm
    · exact (Same.refl t).advance
  | queueDone outcome =>
    simp only [resume, hm]
    by_cases hw : t.queue.worker = .done
    · rw [if_pos hw]
      exact queueIsDone_advance ha (hbody hm rfl) outcome
    · rw [if_neg hw]
      exact (Same.refl t).advance
  | last =>
    simp only [resume, hm]
    exact advance_main .done (by simp [phase, hm])
  | chat | speaking | fallback | done =>
    simp only [resume, hm]
    exact (Same.refl t).advance
  | voice | transcribe | raised => exact absurd (by rw [phase, hm]) hp

lemma chatDone_advance : Advance t (t.chatDone env).1 (t.chatDone env).2 := by
  unfold chatDone
  split
  · next fullReply hm =>
    have hp : t.phase = .body := by rw [phase, hm]
    simp only [ha, Bool.false_eq_true, if_false]
    split
    · exact complete_advance ha hp _
    · exact advance_main (.speaking _ _ _) hp.symm
  · exact (Same.refl t).advance

lemma speech_advance {event : Speech} (hs : t.hears (.speech event) = false) :
    Advance t (t.speech env event).1 (t.speech env event).2 := by
  unfold speech
  split
  · next result synth sentStart hm =>
    have hp : t.phase = .body := by rw [phase, hm]
    have hq : event.samples = false := by simpa [hears, hm] using hs
    split
    · exact advance_main (.speaking _ _ _) hp.symm
    · next hc => exact absurd hc (Synth.next_ne_chunk hq _ _ _)
    · exact complete_advance ha hp result
    · exact advance_error (.ttsError result) hp.symm _ _
  · next synth sentStart hm =>
    have hp : t.phase = .body := by rw [phase, hm]
    have hq : event.samples = false := by simpa [hears, hm] using hs
    split
    · exact advance_main (.fallback _ _) hp.symm
    · next hc => exact absurd hc (Synth.next_ne_chunk hq _ _ _)
    · exact giveUp_advance ha hp
    · exact giveUp_advance ha hp
  · exact (Same.refl t).advance

omit ha in
lemma segmentSpeech_advance {event : Speech} (hs : t.hears (.segmentSpeech event) = false) :
    Advance t (t.segmentSpeech env event).1 (t.segmentSpeech env event).2 := by
  unfold segmentSpeech
  split
  · next segment hw =>
    have hq : event.samples = false := by simpa [hears, hw] using hs
    split
    · refine .stay ?_ ?_ (Or.inl ?_) <;> rfl
    · next hc => exact absurd hc (Synth.next_ne_chunk hq _ _ _)
    · exact (same_goOn _ t _).advance
    · have h := same_goOn env (t.schedule ttsError) (.synthesized false)
      exact .stay h.phase h.text (Or.inr h.tasks)
  · exact (Same.refl t).advance

include ht in
/-- **One step of a silent turn.** -/
lemma step_advance {input : TurnInput} (hp : t.phase ≠ .outside) (hs : t.hears input = false)
    (hb : t.breaks input = false) : Advance t (t.step env input).1 (t.step env input).2 := by
  cases input with
  | resume => exact resume_advance ha ht hp
  | transcribed result =>
    have hm : t.main ≠ .transcribe := fun hm => hp (by rw [phase, hm])
    simp only [step, transcribed]
    split
    · next h => exact absurd h hm
    · next h => exact absurd h hm
    · exact (Same.refl t).advance
  | raise =>
    have hm : t.main = .last ∨ t.main = .done := by
      simpa [breaks, or_iff_not_imp_left] using hb
    have hr : t.raise = t := by
      unfold raise
      rcases hm with hm | hm <;> rw [hm]
    simp only [step, hr]
    exact (Same.refl t).advance
  | chatDelta text =>
    simp only [step]
    split
    · next hm => exact advance_main (.chat text) (by simp [phase, hm])
    · exact (Same.refl t).advance
  | chatDone => exact chatDone_advance ha
  | chatFailed message =>
    simp only [step, chatFailed]
    split
    · next hm => exact advance_error .backendError (by simp [phase, hm]) _ _
    · exact (Same.refl t).advance
  | onDelta text => exact (same_onDelta t text).advance
  | onEnd => exact (same_onEnd t).advance
  | onError message => exact (same_fail t message).advance
  | timeout =>
    rcases timeout_spec t with h | ⟨hm, hm', htasks, htext⟩
    · simp only [step, h]
      exact (Same.refl t).advance
    · exact .stay (by simp [phase, step, hm, hm']) htext (Or.inl htasks)
  | onAbort =>
    simp only [step, ha, Bool.false_eq_true, if_false]
    exact (Same.refl t).advance
  | flush => exact (same_segmenterFlush t).advance
  | work act => exact (same_work t act).advance
  | speech event => exact speech_advance ha hs
  | segmentSpeech event => exact segmentSpeech_advance hs
  | task i => refine .task i ?_ ?_ ?_ <;> rfl

end Steps

/-- Behind an exception only the worker and the scheduled sends go on. -/
lemma step_raised {input : TurnInput} (hm : t.main = .raised)
    (ht : ∀ f ∈ t.tasks, f.isAudioEnd = false) : (t.step env input).1.main = .raised ∧
      (∀ f ∈ (t.step env input).1.tasks, f.isAudioEnd = false) ∧
      ∀ f ∈ (t.step env input).2, f.isAudioEnd = false := by
  have hsame : ∀ {t' : Turn}, Same t t' → t'.main = .raised ∧
      (∀ f ∈ t'.tasks, f.isAudioEnd = false) ∧ ∀ f ∈ (none : Option Frame), f.isAudioEnd = false :=
    fun h => ⟨h.main.trans hm, h.tasks ▸ ht, by simp⟩
  have hstay := hsame (Same.refl t)
  cases input with
  | resume | chatDelta | chatDone | chatFailed | speech =>
    simpa [step, resume, chatDone, chatFailed, speech, hm] using ht
  | transcribed result => cases result <;> simpa [step, transcribed, hm] using ht
  | raise =>
    have h := same_segmenterAbort t
    have hr : t.raise = { t.segmenterAbort.queueClose with main := .raised } := by
      unfold raise
      rw [hm]
    simp only [step, hr]
    exact ⟨trivial, fun f hf => ht f (h.tasks ▸ hf), by simp⟩
  | onDelta text => exact hsame (same_onDelta t text)
  | onEnd => exact hsame (same_onEnd t)
  | onError message => exact hsame (same_fail t message)
  | timeout =>
    rcases timeout_spec t with h | ⟨hm', -⟩
    · simpa [step, h, hm] using ht
    · rw [hm] at hm'
      cases hm'
  | onAbort =>
    simp only [step]
    split
    · exact hsame (same_fail t _)
    · exact hstay
  | flush => exact hsame (same_segmenterFlush t)
  | work act => exact hsame (same_work t act)
  | segmentSpeech event =>
    simp only [step, segmentSpeech]
    split
    · next synth hw =>
      split
      · exact ⟨hm, ht, by simp⟩
      · next s' rate payload hc =>
        have hrate : (t.onRate rate t.sentStart).main = .raised ∧
            ∀ f ∈ (t.onRate rate t.sentStart).tasks, f.isAudioEnd = false := by
          refine ⟨?_, ?_⟩
          · unfold onRate
            split
            · split <;> exact hm
            · exact hm
          · rcases onRate_tasks t rate t.sentStart with h | ⟨r, h⟩ <;> rw [h]
            · exact ht
            · intro f hf
              rcases List.mem_append.mp hf with hf | hf
              · exact ht f hf
              · rw [List.mem_singleton.mp hf]
                rfl
        split
        · have h := same_goOn env
            { t.onRate rate t.sentStart with sentStart := t.sentStart || rate.isSome }
            (.synthesized true)
          exact ⟨h.main.trans hrate.1,
            fun f hf => hrate.2 f ((congrArg (f ∈ ·) h.tasks).mp hf), by simp⟩
        · exact ⟨hrate.1, hrate.2, by simp [Frame.isAudioEnd]⟩
      · exact hsame (same_goOn _ t _)
      · have h := same_goOn env (t.schedule ttsError) (.synthesized false)
        refine ⟨h.main.trans hm, fun f hf => ?_, by simp⟩
        have hf : f ∈ t.tasks ++ [ttsError] := (congrArg (f ∈ ·) h.tasks).mp hf
        rcases List.mem_append.mp hf with hf | hf
        · exact ht f hf
        · rw [List.mem_singleton.mp hf]
          rfl
    · exact hstay
  | task i =>
    refine ⟨hm, fun f hf => ht f (List.mem_of_mem_eraseIdx hf), fun f hf => ?_⟩
    exact ht f (List.mem_of_getElem? hf)

end Turn

/-! ### The frames of a silent turn -/

section Runs

variable {raw : Text} {p : Played} {b : Beat}

/-- What a turn has sent so far that is no error. -/
def Played.script (p : Played) : List Frame := p.sent.filter (!·.isError)

def Scripted (raw : Text) : Turn.Phase → List Frame → Prop
  | .entry, script => script = []
  | .body, script => script = [.transcript raw.strip]
  | .over, script => ∃ followUp, script = [.transcript raw.strip, .audioEnd followUp]
  | .outside, _ => False

/-- A turn that has spoken nothing so far. -/
structure Quiet (raw : Text) (p : Played) : Prop where
  text : p.turn.transcriptText.strip = raw.strip
  tasks : ∀ f ∈ p.turn.tasks, f.isError = true
  script : Scripted raw p.turn.phase p.script

lemma quiet_enter (raw : Text) : Quiet raw (.enter raw) :=
  ⟨rfl, by simp [Played.enter, Turn.new], rfl⟩

lemma Quiet.inside (h : Quiet raw p) : p.turn.phase ≠ .outside := by
  intro hp
  have hs := h.script
  rw [hp] at hs
  exact hs

lemma step_sent (hb : b.passes = true) : (p.step b).sent =
    p.sent ++ (p.turn.step b.env b.input).2.toList := by
  simp [Played.step, hb]

/-- A frame that is sent, seen by the script. -/
lemma script_append {p p' : Played} {frame : Option Frame}
    (h : p'.sent = p.sent ++ frame.toList) :
    p'.script = p.script ++ frame.toList.filter (!·.isError) := by
  unfold Played.script
  rw [h, List.filter_append]

lemma quiet_step (hraw : raw.strip ≠ []) (h : Quiet raw p) (hb : b.Steady) (hs : p.Silent b) :
    Quiet raw (p.step b) := by
  have hadv := Turn.step_advance (t := p.turn) hb.1 (by rw [h.text]; exact hraw) h.inside hs.1 hs.2
  have hscript := script_append (step_sent (p := p) hb.2)
  have hturn : (p.step b).turn = (p.turn.step b.env b.input).1 := rfl
  rw [← hturn] at hadv
  generalize (p.turn.step b.env b.input).2 = frame at hadv hscript
  have herror : (∀ f ∈ frame, f.isError = true) → (p.step b).script = p.script := by
    intro hf
    cases frame with
    | none => simpa using hscript
    | some f => simpa [hf f rfl] using hscript
  have htask : ∀ f ∈ p.turn.tasks ++ [ttsError], f.isError = true := by
    intro f hf
    rcases List.mem_append.mp hf with hf | hf
    · exact h.tasks f hf
    · rw [List.mem_singleton.mp hf]
      rfl
  have hold := h.script
  cases hadv with
  | stay hp ht hs =>
    refine ⟨ht ▸ h.text, ?_, ?_⟩
    · rcases hs with hs | hs <;> rw [hs]
      · exact h.tasks
      · exact htask
    · rw [hp, herror (by simp)]
      exact hold
  | error hp ht hs code message =>
    refine ⟨ht ▸ h.text, hs ▸ h.tasks, ?_⟩
    rw [hp, herror (by simp [Frame.isError])]
    exact hold
  | task i hp ht hs =>
    refine ⟨ht ▸ h.text, fun f hf => ?_, ?_⟩
    · rw [hs] at hf
      exact h.tasks f (List.mem_of_mem_eraseIdx hf)
    · rw [hp, herror fun f hf => h.tasks f (List.mem_of_getElem? hf)]
      exact hold
  | transcript hp hp' hs ht =>
    rw [hp] at hold
    refine ⟨?_, hs ▸ h.tasks, ?_⟩
    · rw [ht, Text.strip_strip]
      exact h.text
    · rw [hp', hscript, h.text]
      have hnil : p.script = [] := hold
      rw [hnil]
      rfl
  | audioEnd hp hp' hs ht followUp =>
    rw [hp] at hold
    refine ⟨ht ▸ h.text, hs ▸ h.tasks, ?_⟩
    rw [hp', hscript]
    have hone : p.script = [.transcript raw.strip] := hold
    rw [hone]
    exact ⟨followUp, rfl⟩

/-! ### A turn that speaks -/

/-- The first sound, the announcement of one included. -/
def firstSound (frames : List Frame) : Option Frame :=
  frames.find? fun f => f.isAudio || f.isAudioStart

/-- A chunk before any announcement. -/
def Blurted (frames : List Frame) : Prop := ∃ payload, firstSound frames = some (.audio payload)

lemma Blurted.append {frames : List Frame} (h : Blurted frames) (more : List Frame) :
    Blurted (frames ++ more) := by
  obtain ⟨payload, hf⟩ := h
  refine ⟨payload, ?_⟩
  rw [firstSound, List.find?_append]
  rw [firstSound] at hf
  rw [hf]
  rfl

lemma Framed.firstSound {transcriptText : Text} {frames : List Frame}
    (h : Framed transcriptText frames) :
    firstSound frames = none ∨ ∃ rate, firstSound frames = some (.audioStart rate) := by
  obtain ⟨audio, followUp, hf, ha⟩ := h
  have hsound : Voice.firstSound frames = Voice.firstSound (frames.filter (!·.isError)) := by
    unfold Voice.firstSound
    rw [List.find?_filter]
    congr 1
    funext f
    cases f <;> rfl
  rw [hsound, hf]
  rcases ha with rfl | ⟨rate, payloads, -, rfl⟩
  · exact Or.inl rfl
  · exact Or.inr ⟨rate, rfl⟩

lemma Framed.not_blurted {transcriptText : Text} {frames : List Frame}
    (h : Framed transcriptText frames) : ¬Blurted frames := by
  rintro ⟨payload, hb⟩
  rcases h.firstSound with hn | ⟨rate, hr⟩
  · rw [hn] at hb
    cases hb
  · rw [hr] at hb
    cases hb

/-- A quiet turn has sent no sound. -/
lemma Quiet.firstSound (h : Quiet raw p) : firstSound p.sent = none := by
  have hsound : Voice.firstSound p.sent = Voice.firstSound p.script := by
    unfold Voice.firstSound Played.script
    rw [List.find?_filter]
    congr 1
    funext f
    cases f <;> rfl
  rw [hsound]
  have hs := h.script
  cases hp : p.turn.phase <;> rw [hp] at hs
  · have hs : p.script = [] := hs
    rw [hs]
    rfl
  · have hs : p.script = [.transcript raw.strip] := hs
    rw [hs]
    rfl
  · obtain ⟨followUp, hs⟩ := hs
    rw [hs]
    rfl
  · exact hs.elim

/-- Samples are sent in the step in which they come. -/
lemma step_hears {t : Turn} {env : TurnEnv} {input : TurnInput} (ha : env.aborted = false)
    (hh : t.hears input = true) : ∃ payload, (t.step env input).2 = some (.audio payload) := by
  cases input with
  | speech event =>
    simp only [Turn.hears, Bool.and_eq_true] at hh
    obtain ⟨hsamples, hmain⟩ := hh
    cases hm : t.main with
    | speaking result synth sentStart =>
      obtain ⟨s', rate, payload, hc⟩ :=
        Synth.next_chunk env.adapter env.targetRate synth hsamples
      simp only [Turn.step, Turn.speech, hm, ha, hc, Bool.false_eq_true, if_false]
      exact ⟨payload, rfl⟩
    | fallback synth sentStart =>
      obtain ⟨s', rate, payload, hc⟩ :=
        Synth.next_chunk env.adapter env.targetRate synth hsamples
      simp only [Turn.step, Turn.speech, hm, ha, hc, Bool.false_eq_true, if_false]
      exact ⟨payload, rfl⟩
    | _ =>
      rw [hm] at hmain
      cases hmain
  | segmentSpeech event =>
    simp only [Turn.hears, Bool.and_eq_true] at hh
    obtain ⟨hsamples, hworker⟩ := hh
    cases hw : t.queue.worker with
    | synthesizing segment =>
      obtain ⟨s', rate, payload, hc⟩ :=
        Synth.next_chunk env.adapter env.targetRate t.synth hsamples
      simp only [Turn.step, Turn.segmentSpeech, hw, ha, hc, Bool.false_eq_true, if_false]
      exact ⟨payload, rfl⟩
    | _ =>
      rw [hw] at hworker
      cases hworker
  | _ => cases hh

lemma blurted_after {beats : List Beat} (hb : ∀ b ∈ beats, b.Steady) (h : Blurted p.sent) :
    Blurted (after Played.step p beats).sent := by
  induction beats generalizing p with
  | nil => exact h
  | cons b beats ih =>
    refine ih (fun b' hb' => hb b' (List.mem_cons_of_mem _ hb')) ?_
    rw [step_sent (hb b List.mem_cons_self).2]
    exact h.append _

/-! ### A turn that raises -/

/-- The turn has broken off, and will send no `audio.end`. -/
structure Broken (p : Played) : Prop where
  main : p.turn.main = .raised
  tasks : ∀ f ∈ p.turn.tasks, f.isAudioEnd = false
  sent : ∀ f ∈ p.sent, f.isAudioEnd = false

lemma broken_after {beats : List Beat} (h : Broken p) : Broken (after Played.step p beats) := by
  induction beats generalizing p with
  | nil => exact h
  | cons b beats ih =>
    obtain ⟨hm, ht, hf⟩ := @Turn.step_raised _ b.env b.input h.main h.tasks
    refine ih ⟨hm, ht, fun f hmem => ?_⟩
    simp only [Played.step] at hmem
    split at hmem
    · rcases List.mem_append.mp hmem with hmem | hmem
      · exact h.sent f hmem
      · exact hf f (Option.mem_toList.mp hmem)
    · exact h.sent f hmem

lemma Broken.not_framed (h : Broken p) (transcriptText : Text) :
    ¬Framed transcriptText p.sent := by
  rintro ⟨audio, followUp, hf, -⟩
  have hm : Frame.audioEnd followUp ∈ p.sent.filter (!·.isError) := by
    rw [hf]
    simp
  have := h.sent _ (List.mem_filter.mp hm).1
  cases this

lemma Quiet.no_audioEnd (h : Quiet raw p) (hp : p.turn.phase ≠ .over) :
    ∀ f ∈ p.sent, f.isAudioEnd = false := by
  intro f hf
  cases f with
  | audioEnd followUp =>
    have hm : Frame.audioEnd followUp ∈ p.script := List.mem_filter.mpr ⟨hf, rfl⟩
    have hs := h.script
    cases hphase : p.turn.phase <;> rw [hphase] at hs
    · have hs : p.script = [] := hs
      rw [hs] at hm
      cases hm
    · have hs : p.script = [.transcript raw.strip] := hs
      rw [hs] at hm
      simp at hm
    · exact absurd hphase hp
    · exact hs.elim
  | transcript | audioStart | audio | error => rfl

lemma Quiet.broken (h : Quiet raw p) (hb : p.turn.breaks b.input = true) : Broken (p.step b) := by
  cases hi : b.input with
  | raise =>
    rw [hi] at hb
    simp only [Turn.breaks, Bool.and_eq_true, decide_eq_true_eq] at hb
    have hphase : p.turn.phase ≠ .over := by
      unfold Turn.phase
      split <;> simp_all
    have hr : p.turn.raise = { p.turn.segmenterAbort.queueClose with main := .raised } := by
      unfold Turn.raise
      split <;> simp_all
    have htasks := (Turn.same_segmenterAbort p.turn).tasks
    have hstep : p.step b = ⟨p.turn.raise, p.sent⟩ := by simp [Played.step, hi, Turn.step]
    rw [hstep, hr]
    refine ⟨rfl, fun f hf => ?_, h.no_audioEnd hphase⟩
    have he := h.tasks f (htasks ▸ hf)
    cases f with
    | error => rfl
    | transcript | audioStart | audio | audioEnd => cases he
  | _ =>
    rw [hi] at hb
    cases hb

/-! ### Framing -/

lemma quiet_after {beats : List Beat} (hraw : raw.strip ≠ []) (h : Quiet raw p)
    (hb : ∀ b ∈ beats, b.Steady) (hs : Throughout Played.step Played.Silent p beats) :
    Quiet raw (after Played.step p beats) := by
  induction beats generalizing p with
  | nil => exact h
  | cons b beats ih =>
    exact ih (quiet_step hraw h (hb b List.mem_cons_self) hs.1)
      (fun b' hb' => hb b' (List.mem_cons_of_mem _ hb')) hs.2

lemma silent_of_framed {beats : List Beat} (hraw : raw.strip ≠ []) (h : Quiet raw p)
    (hb : ∀ b ∈ beats, b.Steady) (hf : Framed raw.strip (after Played.step p beats).sent) :
    Throughout Played.step Played.Silent p beats := by
  induction beats generalizing p with
  | nil => exact trivial
  | cons b beats ih =>
    have hb₀ := hb b List.mem_cons_self
    have hb' : ∀ b' ∈ beats, b'.Steady := fun b' hm => hb b' (List.mem_cons_of_mem _ hm)
    have hs : p.Silent b := by
      refine ⟨?_, ?_⟩
      · by_contra hh
        obtain ⟨payload, hframe⟩ := step_hears hb₀.1 (Bool.not_eq_false _ ▸ hh)
        have hblurt : Blurted (p.step b).sent := by
          refine ⟨payload, ?_⟩
          rw [step_sent hb₀.2, hframe, Voice.firstSound, List.find?_append]
          have hn := h.firstSound
          rw [Voice.firstSound] at hn
          rw [hn]
          rfl
        have hlater := blurted_after hb' hblurt
        exact hf.not_blurted hlater
      · by_contra hh
        exact (broken_after (h.broken (Bool.not_eq_false _ ▸ hh))).not_framed _ hf
    exact ⟨hs, ih (quiet_step hraw h hb₀ hs) hb' hf⟩

/-- **Framing.** A turn with a transcript that is never aborted, and that has come to its end over
an open socket, has sent its frames in order exactly when no provider delivered samples to it and
no exception left the pipeline. -/
theorem turn_framing (raw : Text) (hraw : raw.strip ≠ []) (beats : List Beat)
    (hb : ∀ b ∈ beats, b.Steady)
    (hend : (after Played.step (.enter raw) beats).turn.main = .done ∨
      (after Played.step (.enter raw) beats).turn.main = .raised) :
    Framed raw.strip (after Played.step (.enter raw) beats).sent ↔
      Throughout Played.step Played.Silent (.enter raw) beats := by
  constructor
  · exact silent_of_framed hraw (quiet_enter raw) hb
  · intro hs
    have hq := quiet_after hraw (quiet_enter raw) hb hs
    have hphase : (after Played.step (.enter raw) beats).turn.phase = .over := by
      have hin := hq.inside
      rcases hend with h | h
      · rw [Turn.phase, h]
      · exact absurd (by rw [Turn.phase, h]) hin
    have hscript := hq.script
    rw [hphase] at hscript
    obtain ⟨followUp, hscript⟩ := hscript
    exact ⟨[], followUp, hscript, Or.inl rfl⟩

end Runs

/-! ### Two turns -/

section Sample

def sampleTurnEnv : TurnEnv := ⟨false, .agent true, .auto, .wyoming, none, true⟩

def sampleBeats (inputs : List TurnInput) : List Beat := inputs.map (⟨sampleTurnEnv, true, ·⟩)

lemma steady_sampleBeats {inputs : List TurnInput} : ∀ b ∈ sampleBeats inputs, b.Steady := by
  intro b hb
  obtain ⟨input, -, rfl⟩ := List.mem_map.mp hb
  exact ⟨rfl, rfl⟩

/-- The agent answers with nothing. -/
def unanswered : List Beat :=
  sampleBeats [.resume, .resume, .onEnd, .work .start, .resume, .resume, .resume]

/-- The agent answers `A?`, and the provider speaks one sample. -/
def answeredAloud : List Beat :=
  sampleBeats [.resume, .resume, .onDelta [0x41, 0x3f], .onEnd, .work .start,
    .segmentSpeech (.audioStart (some 22050)), .segmentSpeech (.audioChunk none [0, 1]), .task 0,
    .segmentSpeech .audioStop, .segmentSpeech .batchEnd, .resume, .resume, .resume]

theorem turn_framing_sample :
    Framed (Text.strip [0x41]) (after Played.step (.enter [0x41]) unanswered).sent :=
  (turn_framing [0x41] (by decide) unanswered steady_sampleBeats (Or.inl rfl)).mpr
    ⟨⟨rfl, rfl⟩, ⟨rfl, rfl⟩, ⟨rfl, rfl⟩, ⟨rfl, rfl⟩, ⟨rfl, rfl⟩, ⟨rfl, rfl⟩, ⟨rfl, rfl⟩, trivial⟩

/-- **The first chunk comes before `audio.start`.** -/
theorem answeredAloud_not_framed :
    (after Played.step (.enter [0x41]) answeredAloud).turn.main = .done ∧
    (after Played.step (.enter [0x41]) answeredAloud).sent =
      [.transcript [0x41], .audio [0, 1], .audioStart 22050, .audioEnd true] ∧
    ¬Framed (Text.strip [0x41]) (after Played.step (.enter [0x41]) answeredAloud).sent := by
  have hsent : (after Played.step (.enter [0x41]) answeredAloud).sent =
      [.transcript [0x41], .audio [0, 1], .audioStart 22050, .audioEnd true] := by rfl
  refine ⟨by rfl, hsent, fun h => h.not_blurted ⟨[0, 1], ?_⟩⟩
  rw [hsent]
  rfl

end Sample

end Vauxr.Voice
