import Mathlib
import Vauxr.Lib.Run

/-!
The startup audio of a cold wake (`realtime/startup.py`), with the processors that feed it
(`realtime/startup_input.py`, `LiveService.process_frame` in `realtime/live.py`).

The drain is a task of its own: it stops in every call of the consumer, and everything else can
happen before it goes on. What the consumer is handed is the socket's audio, then the frames that
came in front of the cutover, then the live ones.
-/

namespace Vauxr.Voice

open Vauxr.Lib

/-- An input frame (`InputAudioRawFrame`). -/
structure RtpFrame where
  audio : List UInt8
  sampleRate : ℕ
  rate_pos : 0 < sampleRate
  deriving DecidableEq

/-- The rates that `StartupAudio` takes. -/
inductive InputRate
  | r16000 | r24000
  deriving DecidableEq

def InputRate.hz : InputRate → ℕ
  | .r16000 => 16000
  | .r24000 => 24000

lemma InputRate.hz_pos (rate : InputRate) : 0 < rate.hz := by cases rate <;> decide

/-- The bytes of 20 ms. -/
def InputRate.chunkBytes (rate : InputRate) : ℕ := rate.hz * 2 * 20 / 1000

lemma InputRate.chunkBytes_pos (rate : InputRate) : 0 < rate.chunkBytes := by
  cases rate <;> decide

/-- Where the drain task stands: not made, not yet started, in the resampler, in the consumer
with a chunk or with a queued frame, or over. -/
inductive Drain
  | idle
  | created
  | resampling
  | sendingPcm (total : ℕ) (rest : List UInt8)
  | sendingRtp (frame : RtpFrame)
  | done
  deriving DecidableEq

/-- `armed` is the timer, and `failures` lists the codes the failure callback was started with. -/
structure StartupAudio where
  inputRate : InputRate
  id : ℤ
  closed : Bool
  complete : Bool
  providerReady : Bool
  drained : Bool
  nextSeq : ℕ
  ws : List UInt8
  rtp : List RtpFrame
  bytes24k : ℤ
  bound : Bool
  drain : Drain
  armed : Bool
  failures : List String

namespace StartupAudio

def maxAudioSeconds : ℤ := 15

def new (startupId : ℤ) (inputRate : InputRate) : StartupAudio where
  inputRate
  id := startupId
  closed := false
  complete := false
  providerReady := false
  drained := false
  nextSeq := 0
  ws := []
  rtp := []
  bytes24k := 0
  bound := false
  drain := .idle
  armed := true
  failures := []

/-- The drain task may be cancelled by this; see `DrainEvent.cancelled`. -/
def close (s : StartupAudio) : StartupAudio :=
  { s with closed := true, armed := false, ws := [], rtp := [], bytes24k := 0 }

def fail (s : StartupAudio) (code : String) : StartupAudio :=
  if s.closed then s else { s.close with failures := s.failures ++ [code] }

def reserve (s : StartupAudio) (size rate : ℕ) : StartupAudio × Bool :=
  let s := { s with bytes24k := s.bytes24k + (size * 24000 / rate : ℕ) }
  if maxAudioSeconds * 24000 * 2 < s.bytes24k then
    (s.fail "REALTIME_STARTUP_OVERFLOW", false)
  else (s, true)

/-- `_maybe_drain`. -/
def maybeDrain (s : StartupAudio) : StartupAudio :=
  if !s.closed && !s.drained && s.complete && s.providerReady && s.bound && s.drain = .idle then
    { s with drain := .created }
  else s

def appendWs (s : StartupAudio) (sequence : ℕ) (pcm : List UInt8) : StartupAudio :=
  if s.closed || s.complete then s
  else if sequence ≠ s.nextSeq || pcm.isEmpty || pcm.length % 2 ≠ 0 then
    s.fail "REALTIME_STARTUP_SEQUENCE"
  else
    match s.reserve pcm.length 16000 with
    | (s, true) => { s with ws := s.ws ++ pcm, nextSeq := (s.nextSeq + 1) % 65536 }
    | (s, false) => s

/-- True means that the startup owns the frame, including discarded ones. -/
def appendRtp (s : StartupAudio) (frame : RtpFrame) : StartupAudio × Bool :=
  if s.closed then (s, true)
  else if s.drained then (s, false)
  else
    match s.reserve frame.audio.length frame.sampleRate with
    | (s, true) => ({ s with rtp := s.rtp ++ [frame] }, true)
    | (s, false) => (s, true)

def finishWs (s : StartupAudio) (startupId : ℤ) (nextSeq : ℕ) : StartupAudio × Bool :=
  if s.closed || startupId ≠ s.id then (s, false)
  else if nextSeq ≠ s.nextSeq then (s.fail "REALTIME_STARTUP_SEQUENCE", false)
  else (maybeDrain { s with complete := true }, true)

def bind (s : StartupAudio) : StartupAudio := maybeDrain { s with bound := true }

def ready (s : StartupAudio) : StartupAudio := maybeDrain { s with providerReady := true }

/-! ### The drain -/

/-- The queue, up to the next call of the consumer; an empty one is the cutover. -/
def drainRtp (s : StartupAudio) : StartupAudio × List RtpFrame :=
  if s.closed then ({ s with drain := .done }, [])
  else
    match s.rtp with
    | frame :: rtp => ({ s with rtp, drain := .sendingRtp frame }, [frame])
    | [] => ({ s with drained := true, armed := false, drain := .done }, [])

/-- A chunk as it is handed over. -/
def chunk (rate : InputRate) (pcm : List UInt8) : RtpFrame :=
  ⟨pcm.take rate.chunkBytes, rate.hz, rate.hz_pos⟩

/-- The chunks that are left, up to the next call of the consumer. -/
def drainPcm (s : StartupAudio) (total : ℕ) (rest : List UInt8) : StartupAudio × List RtpFrame :=
  if rest = [] then
    drainRtp { s with bytes24k := s.bytes24k - (total * 24000 / s.inputRate.hz : ℕ) }
  else if s.closed then ({ s with drain := .done }, [])
  else ({ s with drain := .sendingPcm total (rest.drop s.inputRate.chunkBytes) },
    [chunk s.inputRate rest])

/-- What the drain meets: its first run, a call that returns, the resampler's result, a call that
raises, or its cancellation. -/
inductive DrainEvent
  | run
  | returned
  | resampled (pcm : List UInt8)
  | raised
  | cancelled

def stepDrain (s : StartupAudio) (event : DrainEvent) : StartupAudio × List RtpFrame :=
  match s.drain, event with
  | .created, .run =>
    if s.ws ≠ [] ∧ s.inputRate ≠ .r16000 then ({ s with drain := .resampling }, [])
    else drainPcm { s with ws := [] } s.ws.length s.ws
  | .resampling, .resampled pcm => drainPcm { s with ws := [] } pcm.length pcm
  | .sendingPcm total rest, .returned => drainPcm s total rest
  | .sendingRtp frame, .returned =>
    drainRtp { s with
      bytes24k := s.bytes24k - (frame.audio.length * 24000 / frame.sampleRate : ℕ) }
  | .idle, _ => (s, [])
  | .done, _ => (s, [])
  | _, .raised => ({ s.fail "REALTIME_STARTUP_FAILED" with drain := .done }, [])
  | _, .cancelled => ({ s with drain := .done }, [])
  | _, _ => (s, [])

end StartupAudio

/-! ### Its surroundings -/

/-- A startup with what came to it and what came out of it: the pieces that `append_ws` took, the
frames it queued, those that went past it, and what was handed on, in order. -/
structure Intake where
  startup : StartupAudio
  pieces : List (ℕ × List UInt8)
  captured : List RtpFrame
  passed : List RtpFrame
  handed : List RtpFrame

namespace Intake

/-- `endFrame` is a `CancelFrame` or `EndFrame`, and `bind` and `ready` come with the `StartFrame`
or the provider's session. -/
inductive Action
  | appendWs (sequence : ℕ) (pcm : List UInt8)
  | inputFrame (frame : RtpFrame)
  | finishWs (startupId : ℤ) (nextSeq : ℕ)
  | bind
  | ready
  | drain (event : StartupAudio.DrainEvent)
  | fail (code : String)
  | timeout
  | endFrame
  | close

def start (id : ℤ) (rate : InputRate) : Intake := ⟨.new id rate, [], [], [], []⟩

/-- The audio of the socket. -/
def pcm (s : Intake) : List UInt8 := s.pieces.flatMap Prod.snd

/-- An input frame is queued, discarded, or goes on to the next processor. -/
def inputFrame (s : Intake) (frame : RtpFrame) : Intake :=
  match s.startup.appendRtp frame with
  | (startup, true) =>
    if startup.closed then { s with startup }
    else { s with startup, captured := s.captured ++ [frame] }
  | (startup, false) =>
    { s with startup, passed := s.passed ++ [frame], handed := s.handed ++ [frame] }

def appendWs (s : Intake) (sequence : ℕ) (pcm : List UInt8) : Intake :=
  let startup := s.startup.appendWs sequence pcm
  if startup.closed || s.startup.complete then { s with startup }
  else { s with startup, pieces := s.pieces ++ [(sequence, pcm)] }

def step (s : Intake) : Action → Intake
  | .appendWs sequence pcm => s.appendWs sequence pcm
  | .inputFrame frame => s.inputFrame frame
  | .finishWs startupId nextSeq => { s with startup := (s.startup.finishWs startupId nextSeq).1 }
  | .bind => { s with startup := s.startup.bind }
  | .ready => { s with startup := s.startup.ready }
  | .drain event =>
    let (startup, frames) := s.startup.stepDrain event
    { s with startup, handed := s.handed ++ frames }
  | .fail code => { s with startup := s.startup.fail code }
  | .timeout =>
    if s.startup.armed then { s with startup := s.startup.fail "REALTIME_STARTUP_TIMEOUT" } else s
  | .endFrame => { s with startup := s.startup.close }
  | .close => { s with startup := s.startup.close }

end Intake

/-! ### Chunks -/

/-- The chunks of the socket's audio. -/
def chunks (rate : InputRate) (pcm : List UInt8) : List RtpFrame :=
  if pcm = [] then []
  else StartupAudio.chunk rate pcm :: chunks rate (pcm.drop rate.chunkBytes)
termination_by pcm.length
decreasing_by
  have hpos := rate.chunkBytes_pos
  have hlen : 0 < pcm.length := List.length_pos_of_ne_nil ‹_›
  rw [List.length_drop]
  omega

@[simp] lemma chunks_nil (rate : InputRate) : chunks rate [] = [] := by
  rw [chunks, if_pos rfl]

lemma chunks_of_ne_nil {rate : InputRate} {pcm : List UInt8} (h : pcm ≠ []) :
    chunks rate pcm = StartupAudio.chunk rate pcm :: chunks rate (pcm.drop rate.chunkBytes) := by
  rw [chunks, if_neg h]

/-- Cutting into chunks loses nothing. -/
lemma flatMap_chunks (rate : InputRate) (pcm : List UInt8) :
    (chunks rate pcm).flatMap (·.audio) = pcm := by
  induction pcm using chunks.induct rate with
  | case1 => simp
  | case2 pcm h ih =>
    rw [chunks_of_ne_nil h, List.flatMap_cons, ih]
    exact List.take_append_drop _ _

namespace Intake

/-- What is to be handed on, in this order. -/
def script (s : Intake) : List RtpFrame :=
  chunks s.startup.inputRate s.pcm ++ s.captured ++ s.passed

/-! ### The order -/

/-- What the drain has still to hand over. -/
def left (s : Intake) : List RtpFrame :=
  match s.startup.drain with
  | .sendingPcm _ rest => chunks s.startup.inputRate rest ++ s.startup.rtp
  | .sendingRtp _ => s.startup.rtp
  | _ => []

/-- The drain has not called the consumer yet. -/
def Waiting (s : Intake) : Prop := s.startup.drain = .idle ∨ s.startup.drain = .created

/-- `received`: while it waits, an open startup holds all that came. `balance`: later, what was
handed on and what is left are the script, unless the drain was cancelled on its own. -/
structure Ordered (s : Intake) : Prop where
  rate : s.startup.inputRate = .r16000
  plain : s.startup.drain ≠ .resampling
  waiting : s.Waiting → s.handed = []
  complete : s.startup.drain ≠ .idle → s.startup.complete = true
  cut : s.startup.drained = true → s.startup.drain = .done
  passed : s.startup.drained = false → s.passed = []
  received : s.startup.closed = false → s.Waiting →
    s.startup.ws = s.pcm ∧ s.startup.rtp = s.captured
  balance : s.startup.closed = false → ¬s.Waiting →
    (s.startup.drain = .done → s.startup.drained = true) → s.handed ++ s.left = s.script
  inOrder : s.handed <+: s.script

lemma ordered_start (id : ℤ) : (start id .r16000).Ordered where
  rate := rfl
  plain := by simp [start, StartupAudio.new]
  waiting _ := rfl
  complete h := absurd rfl h
  cut h := by cases h
  passed _ := rfl
  received _ _ := ⟨rfl, rfl⟩
  balance _ h := absurd (Or.inl rfl) h
  inOrder := List.nil_prefix

variable {s : Intake}

/-- A startup that is closed keeps its place. -/
lemma Ordered.shut (h : s.Ordered) {startup : StartupAudio} (hclosed : startup.closed = true)
    (hrate : startup.inputRate = s.startup.inputRate)
    (hcomplete : startup.complete = s.startup.complete)
    (hdrained : startup.drained = s.startup.drained)
    (hdrain : startup.drain = s.startup.drain ∨ startup.drain = .done ∧ s.startup.drain ≠ .idle) :
    Ordered { s with startup } where
  rate := hrate.trans h.rate
  plain := by
    rcases hdrain with hd | ⟨hd, -⟩
    · simpa [hd] using h.plain
    · simp [hd]
  waiting hw := by
    rcases hdrain with hd | ⟨hd, -⟩
    · exact h.waiting (by simpa [Waiting, hd] using hw)
    · simp [Waiting, hd] at hw
  complete hi := by
    rw [hcomplete]
    rcases hdrain with hd | ⟨-, hd⟩
    · exact h.complete (by simpa [hd] using hi)
    · exact h.complete hd
  cut hc := by
    rw [hdrained] at hc
    rcases hdrain with hd | ⟨hd, -⟩
    · exact hd.trans (h.cut hc)
    · exact hd
  passed hd := h.passed (hdrained ▸ hd)
  received hc := by simp [hclosed] at hc
  balance hc := by simp [hclosed] at hc
  inOrder := by simpa [script, pcm, hrate] using h.inOrder

lemma Ordered.close (h : s.Ordered) : Ordered { s with startup := s.startup.close } :=
  h.shut rfl rfl rfl rfl (Or.inl rfl)

lemma Ordered.fail (h : s.Ordered) (code : String) :
    Ordered { s with startup := s.startup.fail code } := by
  unfold StartupAudio.fail
  split
  · exact h
  · exact h.shut rfl rfl rfl rfl (Or.inl rfl)

lemma Ordered.maybeDrain (h : s.Ordered) :
    Ordered { s with startup := s.startup.maybeDrain } := by
  unfold StartupAudio.maybeDrain
  split
  · next hm =>
    simp only [Bool.and_eq_true, Bool.not_eq_true', decide_eq_true_eq] at hm
    obtain ⟨⟨⟨⟨⟨hclosed, hdrained⟩, hcomplete⟩, -⟩, -⟩, hidle⟩ := hm
    have hw : s.Waiting := Or.inl hidle
    exact
      { rate := h.rate
        plain := by simp
        waiting := fun _ => h.waiting hw
        complete := fun _ => hcomplete
        cut := fun hc => by simp [hdrained] at hc
        passed := h.passed
        received := fun hc _ => h.received hc hw
        balance := fun _ hn => absurd (Or.inr rfl) hn
        inOrder := h.inOrder }
  · exact h

/-- The outcome of `reserve`: the same startup but for the count, or one that is closed. -/
lemma reserve_cases (startup : StartupAudio) (size rate : ℕ) :
    (∃ n, startup.reserve size rate = ({ startup with bytes24k := n }, true)) ∨
      ∃ n, startup.reserve size rate =
        (({ startup with bytes24k := n } : StartupAudio).fail "REALTIME_STARTUP_OVERFLOW",
          false) := by
  unfold StartupAudio.reserve
  dsimp only
  split
  · exact Or.inr ⟨_, rfl⟩
  · exact Or.inl ⟨_, rfl⟩

/-- The count of the bytes says nothing about the order. -/
lemma Ordered.count (h : s.Ordered) (n : ℤ) :
    Ordered { s with startup := { s.startup with bytes24k := n } } :=
  ⟨h.rate, h.plain, h.waiting, h.complete, h.cut, h.passed, h.received, h.balance, h.inOrder⟩

@[simp] lemma closed_fail (startup : StartupAudio) (code : String) :
    (startup.fail code).closed = true := by
  unfold StartupAudio.fail
  split
  · assumption
  · rfl

lemma Ordered.appendWs (h : s.Ordered) (sequence : ℕ) (pcm : List UInt8) :
    (s.appendWs sequence pcm).Ordered := by
  unfold Intake.appendWs StartupAudio.appendWs
  by_cases hcc : (s.startup.closed || s.startup.complete) = true
  · rw [if_pos hcc, if_pos hcc]
    exact h
  obtain ⟨hclosed, hcomplete⟩ : s.startup.closed = false ∧ s.startup.complete = false := by
    simpa using hcc
  rw [if_neg hcc]
  by_cases hs : (sequence ≠ s.startup.nextSeq || pcm.isEmpty || pcm.length % 2 ≠ 0) = true
  · rw [if_pos hs, if_pos (by simp)]
    exact h.fail _
  rw [if_neg hs]
  rcases reserve_cases s.startup pcm.length 16000 with ⟨n, hn⟩ | ⟨n, hn⟩
  · simp only [hn]
    rw [if_neg hcc]
    have hidle : s.startup.drain = .idle := by
      by_contra hd
      exact absurd (h.complete hd) (by simp [hcomplete])
    have hw : s.Waiting := Or.inl hidle
    obtain ⟨hws, hrtp⟩ := h.received hclosed hw
    exact
      { rate := h.rate
        plain := h.plain
        waiting := h.waiting
        complete := h.complete
        cut := h.cut
        passed := h.passed
        received := fun _ _ => ⟨by simp [hws, Intake.pcm], hrtp⟩
        balance := fun _ hn => absurd hw hn
        inOrder := by
          rw [h.waiting hw]
          exact List.nil_prefix }
  · simp only [hn, closed_fail, Bool.true_or, if_true]
    exact (h.count n).fail _

lemma Ordered.inputFrame (h : s.Ordered) (frame : RtpFrame) : (s.inputFrame frame).Ordered := by
  unfold Intake.inputFrame StartupAudio.appendRtp
  by_cases hclosed : s.startup.closed = true
  · rw [if_pos hclosed]
    simp only [hclosed, if_true]
    exact h
  rw [if_neg hclosed]
  rw [Bool.not_eq_true] at hclosed
  by_cases hdrained : s.startup.drained = true
  · rw [if_pos hdrained]
    have hdone := h.cut hdrained
    have hw : ¬s.Waiting := by simp [Waiting, hdone]
    have hb := h.balance hclosed hw fun _ => hdrained
    have hl : s.left = [] := by simp [left, hdone]
    rw [hl, List.append_nil] at hb
    have he : s.handed ++ [frame] = chunks s.startup.inputRate s.pcm ++ s.captured ++
        (s.passed ++ [frame]) := by
      rw [hb, script, List.append_assoc _ s.passed]
    exact
      { rate := h.rate
        plain := h.plain
        waiting := fun hw' => absurd hw' hw
        complete := h.complete
        cut := h.cut
        passed := fun hd => by simp [hdrained] at hd
        received := fun _ hw' => absurd hw' hw
        balance := fun _ _ _ => by
          simp only [left, hdone, List.append_nil]
          exact he
        inOrder := by
          show s.handed ++ [frame] <+: _
          rw [he]
          exact List.prefix_rfl }
  rw [if_neg hdrained]
  rw [Bool.not_eq_true] at hdrained
  have hpassed := h.passed hdrained
  rcases reserve_cases s.startup frame.audio.length frame.sampleRate with ⟨n, hn⟩ | ⟨n, hn⟩
  · simp only [hn]
    rw [if_neg (by simp [hclosed])]
    set s' : Intake := { s with
      startup := { s.startup with bytes24k := n, rtp := s.startup.rtp ++ [frame] }
      captured := s.captured ++ [frame] } with hs'
    have hscript : s'.script = chunks s.startup.inputRate s.pcm ++ (s.captured ++ [frame]) := by
      show _ ++ _ ++ s.passed = _
      rw [hpassed, List.append_nil]
      rfl
    have hleft : ¬s.Waiting → s.startup.drain ≠ .done → s'.left = s.left ++ [frame] := by
      intro hw hd
      cases hdrain : s.startup.drain with
      | idle => exact absurd (Or.inl hdrain) hw
      | created => exact absurd (Or.inr hdrain) hw
      | resampling => exact absurd hdrain h.plain
      | sendingPcm total rest => simp [hs', left, hdrain]
      | sendingRtp frame => simp [hs', left, hdrain]
      | done => exact absurd hdrain hd
    exact
      { rate := h.rate
        plain := h.plain
        waiting := h.waiting
        complete := h.complete
        cut := h.cut
        passed := h.passed
        received := fun _ hw => by
          obtain ⟨hws, hrtp⟩ := h.received hclosed hw
          exact ⟨hws, congrArg (· ++ [frame]) hrtp⟩
        balance := fun _ hw hd => by
          have hb := h.balance hclosed hw hd
          rw [script, hpassed, List.append_nil] at hb
          rw [hscript, ← List.append_assoc, ← hb, List.append_assoc]
          refine congrArg (s.handed ++ ·) ?_
          exact hleft hw fun hdone => by cases hdrained.symm.trans (hd hdone)
        inOrder := by
          rw [hscript]
          have hp := h.inOrder
          rw [script, hpassed, List.append_nil] at hp
          exact hp.trans (List.append_assoc _ _ _ ▸ List.prefix_append _ _) }
  · simp only [hn, closed_fail, if_true]
    exact (h.count n).fail _

/-- The drain between two calls of the consumer, with `rest` of the socket's audio left. -/
structure Draining (s : Intake) (rest : List UInt8) : Prop where
  rate : s.startup.inputRate = .r16000
  complete : s.startup.complete = true
  drained : s.startup.drained = false
  passed : s.passed = []
  balance : s.startup.closed = false →
    s.handed ++ (chunks s.startup.inputRate rest ++ s.startup.rtp) = s.script
  inOrder : s.handed <+: s.script

/-- The state after what the drain made of the startup. -/
def drainTo (s : Intake) (r : StartupAudio × List RtpFrame) : Intake :=
  { s with startup := r.1, handed := s.handed ++ r.2 }

lemma Draining.done (h : s.Draining rest) (hclosed : s.startup.closed = true) :
    (s.drainTo ({ s.startup with drain := .done }, [])).Ordered where
  rate := h.rate
  plain := by simp [drainTo]
  waiting hw := by simp [drainTo, Waiting] at hw
  complete _ := h.complete
  cut _ := rfl
  passed _ := h.passed
  received hc := by simp [drainTo, hclosed] at hc
  balance hc := by simp [drainTo, hclosed] at hc
  inOrder := by
    simp only [drainTo, List.append_nil]
    exact h.inOrder

lemma Draining.drainRtp (h : s.Draining []) : (s.drainTo s.startup.drainRtp).Ordered := by
  unfold StartupAudio.drainRtp
  by_cases hclosed : s.startup.closed = true
  · rw [if_pos hclosed]
    exact h.done hclosed
  rw [if_neg hclosed]
  rw [Bool.not_eq_true] at hclosed
  have hb := h.balance hclosed
  rw [chunks_nil, List.nil_append] at hb
  cases hrtp : s.startup.rtp with
  | nil =>
    have he : s.handed ++ [] = s.script := by rw [← hb, hrtp]
    exact
      { rate := h.rate
        plain := by simp [drainTo]
        waiting := fun hw => by simp [drainTo, Waiting] at hw
        complete := fun _ => h.complete
        cut := fun _ => rfl
        passed := fun _ => h.passed
        received := fun _ hw => by simp [drainTo, Waiting] at hw
        balance := fun _ _ _ => by
          simp only [drainTo, left, List.append_nil] at he ⊢
          exact he
        inOrder := he ▸ List.prefix_rfl }
  | cons frame rtp =>
    rw [hrtp] at hb
    have he : s.handed ++ [frame] ++ rtp = s.script := by rw [← hb]; simp
    exact
      { rate := h.rate
        plain := by simp [drainTo]
        waiting := fun hw => by simp [drainTo, Waiting] at hw
        complete := fun _ => h.complete
        cut := fun hc => by simp [drainTo, h.drained] at hc
        passed := fun _ => h.passed
        received := fun _ hw => by simp [drainTo, Waiting] at hw
        balance := fun _ _ _ => he
        inOrder := ⟨rtp, he⟩ }

lemma Draining.drainPcm {rest : List UInt8} (h : s.Draining rest) (total : ℕ) :
    (s.drainTo (s.startup.drainPcm total rest)).Ordered := by
  unfold StartupAudio.drainPcm
  by_cases hrest : rest = []
  · subst hrest
    rw [if_pos rfl]
    refine Draining.drainRtp
      (s := { s with startup := { s.startup with bytes24k := _ } }) ?_
    exact ⟨h.rate, h.complete, h.drained, h.passed, h.balance, h.inOrder⟩
  rw [if_neg hrest]
  by_cases hclosed : s.startup.closed = true
  · rw [if_pos hclosed]
    exact h.done hclosed
  rw [if_neg hclosed]
  rw [Bool.not_eq_true] at hclosed
  have hb := h.balance hclosed
  rw [chunks_of_ne_nil hrest] at hb
  have he : s.handed ++ [StartupAudio.chunk s.startup.inputRate rest] ++
      (chunks s.startup.inputRate (rest.drop s.startup.inputRate.chunkBytes) ++ s.startup.rtp) =
      s.script := by
    rw [← hb]
    simp
  exact
    { rate := h.rate
      plain := by simp [drainTo]
      waiting := fun hw => by simp [drainTo, Waiting] at hw
      complete := fun _ => h.complete
      cut := fun hc => by simp [drainTo, h.drained] at hc
      passed := fun _ => h.passed
      received := fun _ hw => by simp [drainTo, Waiting] at hw
      balance := fun _ _ _ => he
      inOrder := ⟨_, he⟩ }

lemma Ordered.drained_eq (h : s.Ordered) (hd : s.startup.drain ≠ .done) :
    s.startup.drained = false := by
  by_contra hc
  exact hd (h.cut (by simpa using hc))

/-- A drain that ends early leaves what it has handed on. -/
lemma Ordered.stop (h : s.Ordered) (hi : s.startup.drain ≠ .idle) (hd : s.startup.drain ≠ .done) :
    (s.drainTo ({ s.startup with drain := .done }, [])).Ordered := by
  have hnot := h.drained_eq hd
  exact
    { rate := h.rate
      plain := by simp [drainTo]
      waiting := fun hw => by simp [drainTo, Waiting] at hw
      complete := fun _ => h.complete hi
      cut := fun _ => rfl
      passed := fun _ => h.passed hnot
      received := fun _ hw => by simp [drainTo, Waiting] at hw
      balance := fun _ _ hb => by cases hnot.symm.trans (hb rfl)
      inOrder := by
        simp only [drainTo, List.append_nil]
        exact h.inOrder }

lemma Ordered.raise (h : s.Ordered) (hi : s.startup.drain ≠ .idle) (code : String) :
    (s.drainTo ({ s.startup.fail code with drain := .done }, [])).Ordered := by
  have hsame : s.drainTo ({ s.startup.fail code with drain := .done }, []) =
      { s with startup := { s.startup.fail code with drain := .done } } := by
    simp [drainTo]
  rw [hsame]
  unfold StartupAudio.fail
  split
  · next hc => exact h.shut hc rfl rfl rfl (Or.inr ⟨rfl, hi⟩)
  · exact h.shut rfl rfl rfl rfl (Or.inr ⟨rfl, hi⟩)

lemma Ordered.stepDrain (h : s.Ordered) (event : StartupAudio.DrainEvent) :
    (s.drainTo (s.startup.stepDrain event)).Ordered := by
  have hstay : (s.drainTo (s.startup, [])).Ordered := by simpa [drainTo] using h
  unfold StartupAudio.stepDrain
  cases hdrain : s.startup.drain with
  | idle => exact hstay
  | done => exact hstay
  | resampling => exact absurd hdrain h.plain
  | created =>
    have hi : s.startup.drain ≠ .idle := by simp [hdrain]
    have hd : s.startup.drain ≠ .done := by simp [hdrain]
    cases event with
    | run =>
      have hw : s.Waiting := Or.inr hdrain
      have hnot := h.drained_eq hd
      have hpassed := h.passed hnot
      have hrun : ¬(s.startup.ws ≠ [] ∧ s.startup.inputRate ≠ .r16000) := fun hr => hr.2 h.rate
      simp only [if_neg hrun]
      refine Draining.drainPcm (s := { s with startup := { s.startup with ws := [] } }) ?_ _
      exact
        { rate := h.rate
          complete := h.complete hi
          drained := hnot
          passed := hpassed
          balance := fun hc => by
            obtain ⟨hws, hrtp⟩ := h.received hc hw
            show s.handed ++ (chunks _ s.startup.ws ++ s.startup.rtp) = chunks _ s.pcm ++ _ ++ s.passed
            rw [h.waiting hw, hpassed, hws, hrtp, List.nil_append, List.append_nil]
          inOrder := h.inOrder }
    | returned => exact hstay
    | resampled => exact hstay
    | raised => exact h.raise hi _
    | cancelled => exact h.stop hi hd
  | sendingPcm total rest =>
    have hi : s.startup.drain ≠ .idle := by simp [hdrain]
    have hd : s.startup.drain ≠ .done := by simp [hdrain]
    cases event with
    | run => exact hstay
    | returned =>
      have hw : ¬s.Waiting := by simp [Waiting, hdrain]
      refine Draining.drainPcm ?_ total
      exact
        { rate := h.rate
          complete := h.complete hi
          drained := h.drained_eq hd
          passed := h.passed (h.drained_eq hd)
          balance := fun hc => by
            have hb := h.balance hc hw fun hdone => absurd hdone hd
            rwa [left, hdrain] at hb
          inOrder := h.inOrder }
    | resampled => exact hstay
    | raised => exact h.raise hi _
    | cancelled => exact h.stop hi hd
  | sendingRtp frame =>
    have hi : s.startup.drain ≠ .idle := by simp [hdrain]
    have hd : s.startup.drain ≠ .done := by simp [hdrain]
    cases event with
    | run => exact hstay
    | returned =>
      have hw : ¬s.Waiting := by simp [Waiting, hdrain]
      refine Draining.drainRtp
        (s := { s with startup := { s.startup with bytes24k := _ } }) ?_
      exact
        { rate := h.rate
          complete := h.complete hi
          drained := h.drained_eq hd
          passed := h.passed (h.drained_eq hd)
          balance := fun hc => by
            have hb := h.balance hc hw fun hdone => absurd hdone hd
            rw [left, hdrain] at hb
            rw [chunks_nil, List.nil_append]
            exact hb
          inOrder := h.inOrder }
    | resampled => exact hstay
    | raised => exact h.raise hi _
    | cancelled => exact h.stop hi hd

/-- **One step keeps the order.** -/
theorem Ordered.step (h : s.Ordered) (a : Action) : (s.step a).Ordered := by
  cases a with
  | appendWs sequence pcm => exact h.appendWs sequence pcm
  | inputFrame frame => exact h.inputFrame frame
  | finishWs startupId nextSeq =>
    simp only [Intake.step, StartupAudio.finishWs]
    split
    · exact h
    split
    · exact h.fail _
    · refine Ordered.maybeDrain (s := { s with startup := { s.startup with complete := true } }) ?_
      exact ⟨h.rate, h.plain, h.waiting, fun _ => rfl, h.cut, h.passed, h.received, h.balance,
        h.inOrder⟩
  | bind =>
    refine Ordered.maybeDrain (s := { s with startup := { s.startup with bound := true } }) ?_
    exact ⟨h.rate, h.plain, h.waiting, h.complete, h.cut, h.passed, h.received, h.balance,
      h.inOrder⟩
  | ready =>
    refine Ordered.maybeDrain
      (s := { s with startup := { s.startup with providerReady := true } }) ?_
    exact ⟨h.rate, h.plain, h.waiting, h.complete, h.cut, h.passed, h.received, h.balance,
      h.inOrder⟩
  | drain event => exact h.stepDrain event
  | fail code => exact h.fail code
  | timeout =>
    simp only [Intake.step]
    split
    · exact h.fail _
    · exact h
  | endFrame => exact h.close
  | close => exact h.close

lemma ordered_after (h : s.Ordered) (acts : List Action) : (after step s acts).Ordered :=
  Throughout.invariant (I := Ordered) (P := fun _ _ => True) (fun _ a hs _ => hs.step a) h
    (Throughout.of_forall (fun _ _ => trivial) s acts)

/-! ### A closed startup -/

lemma drainRtp_closed {startup : StartupAudio} (h : startup.closed = true) :
    startup.drainRtp.1.closed = true ∧ startup.drainRtp.2 = [] := by
  unfold StartupAudio.drainRtp
  rw [if_pos h]
  exact ⟨h, rfl⟩

lemma drainPcm_closed {startup : StartupAudio} (h : startup.closed = true) (total : ℕ)
    (rest : List UInt8) :
    (startup.drainPcm total rest).1.closed = true ∧ (startup.drainPcm total rest).2 = [] := by
  unfold StartupAudio.drainPcm
  split
  · exact drainRtp_closed h
  · exact ⟨h, rfl⟩

lemma stepDrain_closed {startup : StartupAudio} (h : startup.closed = true)
    (event : StartupAudio.DrainEvent) :
    (startup.stepDrain event).1.closed = true ∧ (startup.stepDrain event).2 = [] := by
  unfold StartupAudio.stepDrain
  split
  · split
    · exact ⟨h, rfl⟩
    · refine drainPcm_closed ?_ _ _
      exact h
  · refine drainPcm_closed ?_ _ _
    exact h
  · exact drainPcm_closed h _ _
  · refine drainRtp_closed ?_
    exact h
  all_goals simp [h]

lemma maybeDrain_closed (startup : StartupAudio) :
    startup.maybeDrain.closed = startup.closed := by
  unfold StartupAudio.maybeDrain
  split <;> rfl

/-- **A closed startup hands nothing on**, and stays closed. -/
theorem step_closed (h : s.startup.closed = true) (a : Action) :
    (s.step a).startup.closed = true ∧ (s.step a).handed = s.handed := by
  cases a with
  | appendWs sequence pcm => simp [step, Intake.appendWs, StartupAudio.appendWs, h]
  | inputFrame frame => simp [step, Intake.inputFrame, StartupAudio.appendRtp, h]
  | finishWs startupId nextSeq => simp [step, StartupAudio.finishWs, h]
  | bind => simp [step, StartupAudio.bind, maybeDrain_closed, h]
  | ready => simp [step, StartupAudio.ready, maybeDrain_closed, h]
  | drain event =>
    obtain ⟨hc, hf⟩ := stepDrain_closed h event
    simp [step, hc, hf]
  | fail code => simp [step]
  | timeout =>
    simp only [step]
    split <;> simp [h]
  | endFrame => exact ⟨rfl, rfl⟩
  | close => exact ⟨rfl, rfl⟩

lemma after_closed (h : s.startup.closed = true) (acts : List Action) :
    (after step s acts).startup.closed = true ∧ (after step s acts).handed = s.handed := by
  induction acts generalizing s with
  | nil => exact ⟨h, rfl⟩
  | cons a acts ih =>
    obtain ⟨hc, hf⟩ := step_closed h a
    obtain ⟨hc', hf'⟩ := ih hc
    exact ⟨hc', hf'.trans hf⟩

/-! ### What arrives -/

def Action.frame? : Action → Option RtpFrame
  | .inputFrame frame => some frame
  | _ => none

def Action.piece? : Action → Option (ℕ × List UInt8)
  | .appendWs sequence pcm => some (sequence, pcm)
  | _ => none

/-- A frame that an open startup meets is queued or goes past it. -/
lemma Ordered.step_frames (h : s.Ordered) (a : Action)
    (hc : (s.step a).startup.closed = false) :
    (s.step a).captured ++ (s.step a).passed = s.captured ++ s.passed ++ a.frame?.toList := by
  cases a with
  | inputFrame frame =>
    simp only [Intake.step, Intake.inputFrame] at hc ⊢
    split at hc
    · next startup he =>
      split at hc
      · next hs => simp [hs] at hc
      · next hs =>
        have hnot : s.startup.drained = false := by
          by_contra hd
          have hopen : s.startup.closed ≠ true := by
            intro hclosed
            simp only [StartupAudio.appendRtp, if_pos hclosed, Prod.mk.injEq] at he
            rw [← he.1] at hs
            exact hs hclosed
          rw [Bool.not_eq_false] at hd
          simp [StartupAudio.appendRtp, hopen, hd] at he
        simp [hs, h.passed hnot, Action.frame?]
    · simp [Action.frame?]
  | appendWs sequence pcm =>
    simp only [Intake.step, Intake.appendWs]
    split <;> simp [Action.frame?]
  | timeout =>
    simp only [Intake.step]
    split <;> simp [Action.frame?]
  | _ => simp [Intake.step, Action.frame?]

lemma frames_after (h : s.Ordered) (acts : List Action)
    (hc : (after step s acts).startup.closed = false) :
    (after step s acts).captured ++ (after step s acts).passed =
      s.captured ++ s.passed ++ acts.filterMap Action.frame? := by
  induction acts generalizing s with
  | nil => simp
  | cons a acts ih =>
    have hopen : (s.step a).startup.closed = false := by
      by_contra hclosed
      have hlast := (after_closed (by simpa using hclosed) acts).1
      rw [after_cons] at hc
      simp [hc] at hlast
    rw [after_cons] at hc ⊢
    rw [ih (h.step a) hc, h.step_frames a hopen]
    cases hf : a.frame? <;> simp [hf]

/-! ### The pieces -/

/-- The pieces carry the numbers 0, 1, 2 and so on, cut to 16 bits. -/
structure Numbered (s : Intake) : Prop where
  numbers : s.pieces.map Prod.fst = (List.range s.pieces.length).map (· % 65536)
  next : s.startup.nextSeq = s.pieces.length % 65536

/-- Two startups that count the pieces alike. -/
def Counts (startup startup' : StartupAudio) : Prop :=
  startup'.nextSeq = startup.nextSeq ∧ startup'.complete = startup.complete

lemma counts_fail (startup : StartupAudio) (code : String) :
    Counts startup (startup.fail code) := by
  unfold StartupAudio.fail
  split <;> exact ⟨rfl, rfl⟩

lemma counts_maybeDrain (startup : StartupAudio) : Counts startup startup.maybeDrain := by
  unfold StartupAudio.maybeDrain
  split <;> exact ⟨rfl, rfl⟩

lemma counts_drainRtp (startup : StartupAudio) : Counts startup startup.drainRtp.1 := by
  unfold StartupAudio.drainRtp
  split
  · exact ⟨rfl, rfl⟩
  · split <;> exact ⟨rfl, rfl⟩

lemma counts_drainPcm (startup : StartupAudio) (total : ℕ) (rest : List UInt8) :
    Counts startup (startup.drainPcm total rest).1 := by
  unfold StartupAudio.drainPcm
  split
  · exact counts_drainRtp _
  · split <;> exact ⟨rfl, rfl⟩

lemma counts_stepDrain (startup : StartupAudio) (event : StartupAudio.DrainEvent) :
    Counts startup (startup.stepDrain event).1 := by
  unfold StartupAudio.stepDrain
  split
  · split
    · exact ⟨rfl, rfl⟩
    · exact counts_drainPcm _ _ _
  · exact counts_drainPcm _ _ _
  · exact counts_drainPcm _ _ _
  · exact counts_drainRtp _
  · exact ⟨rfl, rfl⟩
  · exact ⟨rfl, rfl⟩
  · exact counts_fail _ _
  · exact ⟨rfl, rfl⟩
  · exact ⟨rfl, rfl⟩

lemma counts_appendRtp (startup : StartupAudio) (frame : RtpFrame) :
    Counts startup (startup.appendRtp frame).1 := by
  unfold StartupAudio.appendRtp
  split
  · exact ⟨rfl, rfl⟩
  split
  · exact ⟨rfl, rfl⟩
  rcases reserve_cases startup frame.audio.length frame.sampleRate with ⟨n, hn⟩ | ⟨n, hn⟩
  · simp only [hn]
    exact ⟨rfl, rfl⟩
  · simp only [hn]
    exact counts_fail _ _

/-- `append_ws` takes the piece that comes next, or none. -/
lemma appendWs_cases (s : Intake) (sequence : ℕ) (pcm : List UInt8) :
    (s.appendWs sequence pcm).pieces = s.pieces ∧
      Counts s.startup (s.appendWs sequence pcm).startup ∧
      (s.startup.complete = true ∨ (s.appendWs sequence pcm).startup.closed = true) ∨
    (s.appendWs sequence pcm).pieces = s.pieces ++ [(sequence, pcm)] ∧
      (s.appendWs sequence pcm).startup.nextSeq = (sequence + 1) % 65536 ∧
      (s.appendWs sequence pcm).startup.complete = false ∧
      s.startup.complete = false ∧ s.startup.nextSeq = sequence := by
  unfold Intake.appendWs StartupAudio.appendWs
  by_cases hcc : (s.startup.closed || s.startup.complete) = true
  · rw [if_pos hcc, if_pos hcc]
    refine Or.inl ⟨rfl, ⟨rfl, rfl⟩, ?_⟩
    rw [Bool.or_eq_true] at hcc
    exact hcc.symm
  rw [if_neg hcc]
  by_cases hs : (sequence ≠ s.startup.nextSeq || pcm.isEmpty || pcm.length % 2 ≠ 0) = true
  · rw [if_pos hs, if_pos (by simp)]
    exact Or.inl ⟨rfl, counts_fail _ _, Or.inr (closed_fail _ _)⟩
  rw [if_neg hs]
  have hseq : s.startup.nextSeq = sequence := by
    by_contra hne
    simp [Ne.symm hne] at hs
  simp only [Bool.or_eq_true, not_or, Bool.not_eq_true] at hcc
  rcases reserve_cases s.startup pcm.length 16000 with ⟨n, hn⟩ | ⟨n, hn⟩
  · simp only [hn, hcc.1, hcc.2, Bool.or_self, Bool.false_eq_true, if_false]
    exact Or.inr (by simp [hseq])
  · simp only [hn, closed_fail, Bool.true_or, if_true]
    exact Or.inl ⟨trivial, counts_fail _ _, Or.inr trivial⟩

/-- Every other action leaves the pieces; the end of the socket's audio is marked once. -/
lemma step_counts (s : Intake) {a : Action} (ha : a.piece? = none) :
    (s.step a).pieces = s.pieces ∧ (s.step a).startup.nextSeq = s.startup.nextSeq ∧
      (s.startup.complete = true → (s.step a).startup.complete = true) := by
  have hkeep : ∀ startup, Counts s.startup startup →
      startup.nextSeq = s.startup.nextSeq ∧
        (s.startup.complete = true → startup.complete = true) :=
    fun startup h => ⟨h.1, fun hc => h.2.trans hc⟩
  cases a with
  | appendWs sequence pcm => cases ha
  | inputFrame frame =>
    have hn := hkeep _ (counts_appendRtp s.startup frame)
    simp only [step, Intake.inputFrame]
    split
    · next startup he =>
      rw [he] at hn
      split <;> exact ⟨rfl, hn⟩
    · next startup he =>
      rw [he] at hn
      exact ⟨rfl, hn⟩
  | finishWs startupId nextSeq =>
    refine ⟨rfl, ?_⟩
    simp only [step, StartupAudio.finishWs]
    split
    · exact ⟨rfl, id⟩
    split
    · exact hkeep _ (counts_fail _ _)
    · obtain ⟨hn, hc⟩ := counts_maybeDrain { s.startup with complete := true }
      exact ⟨hn, fun _ => hc⟩
  | bind => exact ⟨rfl, hkeep _ (counts_maybeDrain _)⟩
  | ready => exact ⟨rfl, hkeep _ (counts_maybeDrain _)⟩
  | drain event => exact ⟨rfl, hkeep _ (counts_stepDrain _ _)⟩
  | fail code => exact ⟨rfl, hkeep _ (counts_fail _ _)⟩
  | timeout =>
    simp only [step]
    split
    · exact ⟨rfl, hkeep _ (counts_fail _ _)⟩
    · exact ⟨rfl, rfl, id⟩
  | endFrame => exact ⟨rfl, rfl, id⟩
  | close => exact ⟨rfl, rfl, id⟩

lemma Numbered.step (h : s.Numbered) (a : Action) : (s.step a).Numbered := by
  have hkeep : ∀ t : Intake, t.pieces = s.pieces → t.startup.nextSeq = s.startup.nextSeq →
      t.Numbered := by
    intro t hp hn
    exact ⟨by rw [hp, h.numbers], by rw [hp, hn, h.next]⟩
  cases ha : a.piece? with
  | none =>
    obtain ⟨hp, hn, -⟩ := step_counts s ha
    exact hkeep _ hp hn
  | some piece =>
    cases a with
    | appendWs sequence pcm =>
      rcases appendWs_cases s sequence pcm with ⟨hp, ⟨hn, -⟩, -⟩ | ⟨hp, hn, -, -, hseq⟩
      · exact hkeep _ hp hn
      · rw [h.next] at hseq
        refine ⟨?_, ?_⟩
        · simp only [Intake.step, hp, List.map_append, List.map_cons, List.map_nil, h.numbers,
            List.length_append, List.length_singleton, List.range_succ, hseq]
        · simp only [Intake.step, hp, hn, List.length_append, List.length_singleton]
          omega
    | _ => cases ha

lemma numbered_after (h : s.Numbered) (acts : List Action) : (after step s acts).Numbered :=
  Throughout.invariant (I := Numbered) (P := fun _ _ => True) (fun _ a hs _ => hs.step a) h
    (Throughout.of_forall (fun _ _ => trivial) s acts)

lemma step_pieces (s : Intake) {a : Action} (hc : (s.step a).startup.closed = false) :
    (s.startup.complete = true ∧ (s.step a).startup.complete = true ∧
        (s.step a).pieces = s.pieces) ∨
      s.startup.complete = false ∧ (s.step a).pieces = s.pieces ++ a.piece?.toList := by
  cases ha : a.piece? with
  | none =>
    obtain ⟨hp, -, hcomplete⟩ := step_counts s ha
    cases hs : s.startup.complete with
    | true => exact Or.inl ⟨rfl, hcomplete hs, hp⟩
    | false => exact Or.inr ⟨rfl, by simp [hp]⟩
  | some piece =>
    cases a with
    | appendWs sequence pcm =>
      obtain rfl : (sequence, pcm) = piece := Option.some.inj ha
      rcases appendWs_cases s sequence pcm with ⟨hp, ⟨-, hk⟩, hs | hs⟩ | ⟨hp, -, -, hs, -⟩
      · exact Or.inl ⟨hs, hk.trans hs, hp⟩
      · exact absurd (hc.symm.trans hs) (by simp)
      · exact Or.inr ⟨hs, hp⟩
    | _ => cases ha

/-- An open startup has taken every piece up to the end of the socket's audio. -/
lemma pieces_after (s : Intake) (acts : List Action)
    (hc : (after step s acts).startup.closed = false) :
    (s.startup.complete = true → (after step s acts).startup.complete = true ∧
      (after step s acts).pieces = s.pieces) ∧
    (after step s acts).pieces <+: s.pieces ++ acts.filterMap Action.piece? ∧
    ((after step s acts).startup.complete = false →
      (after step s acts).pieces = s.pieces ++ acts.filterMap Action.piece?) := by
  induction acts generalizing s with
  | nil => simp
  | cons a acts ih =>
    have hopen : (s.step a).startup.closed = false := by
      by_contra hclosed
      have hlast := (after_closed (by simpa using hclosed) acts).1
      rw [after_cons] at hc
      simp [hc] at hlast
    rw [after_cons] at hc ⊢
    obtain ⟨hkeep, hpre, hall⟩ := ih (s.step a) hc
    rcases step_pieces s hopen with ⟨hs, hs', hp⟩ | ⟨hs, hp⟩
    · obtain ⟨hk, hpieces⟩ := hkeep hs'
      rw [hpieces, hp]
      exact ⟨fun _ => ⟨hk, rfl⟩, List.prefix_append _ _, fun hn => by simp [hk] at hn⟩
    · have he : s.pieces ++ (a :: acts).filterMap Action.piece? =
          (s.step a).pieces ++ acts.filterMap Action.piece? := by
        rw [hp]
        cases ha : a.piece? <;> simp [ha]
      rw [he]
      exact ⟨fun hn => by simp [hs] at hn, hpre, hall⟩

/-- **The cutover keeps the order.** In every run of a startup at 16 kHz, what is handed on is the
socket's audio in the order of its numbers, then the frames that were queued, then the live ones,
up to some point; an open startup has lost none that arrived and is past the end of the queue when
the first live frame goes by; and a closed one hands nothing on any more. -/
theorem cutover_order (id : ℤ) (acts : List Action) :
    let s := after step (start id .r16000) acts
    s.handed <+: s.script ∧
    (s.startup.closed = false → s.startup.drained = true → s.handed = s.script) ∧
    (s.startup.drained = false → s.passed = []) ∧
    (chunks s.startup.inputRate s.pcm).flatMap (·.audio) = s.pcm ∧
    s.pieces.map Prod.fst = (List.range s.pieces.length).map (· % 65536) ∧
    (s.startup.closed = false →
      s.pieces <+: acts.filterMap Action.piece? ∧
      (s.startup.complete = false → s.pieces = acts.filterMap Action.piece?) ∧
      s.captured ++ s.passed = acts.filterMap Action.frame?) ∧
    (s.startup.closed = true → ∀ more, (after step s more).handed = s.handed) := by
  intro s
  have ho : s.Ordered := ordered_after (ordered_start id) acts
  have hn : s.Numbered := numbered_after ⟨rfl, rfl⟩ acts
  refine ⟨ho.inOrder, fun hc hd => ?_, ho.passed, flatMap_chunks _ _, hn.numbers, fun hc => ?_,
    fun hc more => (after_closed hc more).2⟩
  · have hdone := ho.cut hd
    have hb := ho.balance hc (by simp [Waiting, hdone]) fun _ => hd
    rwa [left, hdone, List.append_nil] at hb
  · obtain ⟨-, hpre, hall⟩ := pieces_after (start id .r16000) acts hc
    exact ⟨hpre, hall, frames_after (ordered_start id) acts hc⟩

end Intake

end Vauxr.Voice
