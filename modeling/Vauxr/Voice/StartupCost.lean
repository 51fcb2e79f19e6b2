import Vauxr.Voice.Cutover

/-!
What a startup at 16 kHz counts (`_reserve` and the releases of `_drain` in `realtime/startup.py`):
the bytes, at 24 kHz, of the audio that is reserved and not released.

The drain is cancelled by `close` alone, and sees it in the call of the consumer that it waits for.
-/

namespace Vauxr.Voice

open Vauxr.Lib

/-- What a piece of audio costs, in bytes at 24 kHz. -/
def cost (size rate : ℕ) : ℕ := size * 24000 / rate

def RtpFrame.cost (f : RtpFrame) : ℕ := Voice.cost f.audio.length f.sampleRate

/-- The cost of the frame that the drain has taken and not released. -/
def Drain.inFlight : Drain → ℕ
  | .sendingRtp frame => frame.cost
  | _ => 0

namespace Intake

/-- Nobody but `close` cancels the drain. -/
abbrev Move := {a : Action // a ≠ .drain .cancelled}

/-- A step, and the end of the drain where the step has closed the startup. -/
def advance (s : Intake) (a : Move) : Intake :=
  if (s.step a).startup.closed then (s.step a).step (.drain .cancelled) else s.step a

/-- The pieces of the socket that are reserved and not released. -/
def reserved (s : Intake) : List (ℕ × List UInt8) :=
  if s.startup.closed then []
  else
    match s.startup.drain with
    | .sendingRtp _ => []
    | .done => []
    | _ => s.pieces

/-- The cost of the audio that is reserved and not released, piece by piece. -/
def outstanding (s : Intake) : ℕ :=
  (s.reserved.map fun p => cost p.2.length 16000).sum + (s.startup.rtp.map RtpFrame.cost).sum +
    s.startup.drain.inFlight

/-- The size of the socket's audio that is stored, or that the drain has taken and not released. -/
def buffered (s : Intake) : ℕ :=
  match s.startup.drain with
  | .sendingPcm total _ => total
  | _ => s.startup.ws.length

/-- The counter is the cost of what is outstanding; what is stored is what was reserved. -/
structure Accounted (s : Intake) : Prop where
  count : s.startup.bytes24k = s.outstanding
  even : ∀ p ∈ s.pieces, p.2.length % 2 = 0
  stored : s.buffered = (s.reserved.map fun p => p.2.length).sum
  emptied : ¬s.Waiting → s.startup.ws = []
  bound : s.startup.closed = false → s.startup.bytes24k ≤ StartupAudio.maxAudioSeconds * 24000 * 2
  closed : s.startup.closed = true →
    (s.startup.drain = .idle ∨ s.startup.drain = .done) ∧ s.startup.ws = [] ∧ s.startup.rtp = []
  finished : s.startup.closed = false → s.startup.drain = .done →
    s.startup.drained = true ∧ s.startup.rtp = []

/-- A closed startup counts nothing and holds nothing. -/
structure Cleared (startup : StartupAudio) : Prop where
  closed : startup.closed = true
  ws : startup.ws = []
  rtp : startup.rtp = []
  count : startup.bytes24k = 0

variable {s : Intake}

lemma accounted_start (id : ℤ) : (start id .r16000).Accounted where
  count := rfl
  even _ h := nomatch h
  stored := rfl
  emptied h := absurd (Or.inl rfl) h
  bound _ := by simp [start, StartupAudio.new, StartupAudio.maxAudioSeconds]
  closed h := nomatch h
  finished _ h := nomatch h

/-- The cost of the pieces does not depend on where they were cut: they are of even size. -/
lemma cost_pieces {l : List (ℕ × List UInt8)} (h : ∀ p ∈ l, p.2.length % 2 = 0) :
    (l.map fun p => cost p.2.length 16000).sum = cost (l.map fun p => p.2.length).sum 16000 ∧
      (l.map fun p => p.2.length).sum % 2 = 0 := by
  induction l with
  | nil => exact ⟨rfl, rfl⟩
  | cons p l ih =>
    obtain ⟨hsum, heven⟩ := ih fun q hq => h q (List.mem_cons_of_mem _ hq)
    have hp := h p List.mem_cons_self
    simp only [List.map_cons, List.sum_cons, hsum]
    unfold cost
    omega

lemma Accounted.nonneg (h : s.Accounted) : 0 ≤ s.startup.bytes24k := by
  rw [h.count]
  exact Int.natCast_nonneg _

lemma Accounted.cleared (h : s.Accounted) (hc : s.startup.closed = true) : Cleared s.startup := by
  obtain ⟨hdrain, hws, hrtp⟩ := h.closed hc
  refine ⟨hc, hws, hrtp, ?_⟩
  rw [h.count, outstanding, reserved, if_pos hc, hrtp]
  rcases hdrain with hd | hd
  · rw [hd]
    rfl
  · rw [hd]
    rfl

/-- What is counted is a matter of the startup and the pieces. -/
lemma Accounted.congr {t : Intake} (h : s.Accounted) (hs : t.startup = s.startup)
    (hp : t.pieces = s.pieces) : t.Accounted := by
  obtain ⟨startup, pieces, captured, passed, handed⟩ := t
  obtain rfl : startup = s.startup := hs
  obtain rfl : pieces = s.pieces := hp
  exact ⟨h.count, h.even, h.stored, h.emptied, h.bound, h.closed, h.finished⟩

/-! ### Closing -/

/-- The state is accounted for, or its startup has just been closed. -/
def Settling (s : Intake) : Prop :=
  s.Accounted ∨ Cleared s.startup ∧ ∀ p ∈ s.pieces, p.2.length % 2 = 0

lemma stepDrain_cancelled (startup : StartupAudio) : ∃ drain : Drain,
    (drain = .idle ∨ drain = .done) ∧
      startup.stepDrain .cancelled = ({ startup with drain }, []) := by
  cases hd : startup.drain with
  | idle =>
    have hsame : ({ startup with drain := .idle } : StartupAudio) = startup := by rw [← hd]
    exact ⟨.idle, .inl rfl, by simp [StartupAudio.stepDrain, hd, hsame]⟩
  | done =>
    have hsame : ({ startup with drain := .done } : StartupAudio) = startup := by rw [← hd]
    exact ⟨.done, .inr rfl, by simp [StartupAudio.stepDrain, hd, hsame]⟩
  | _ => exact ⟨.done, .inr rfl, by simp [StartupAudio.stepDrain, hd]⟩

/-- The drain that is cancelled is over. -/
lemma Cleared.accounted (h : Cleared s.startup) (heven : ∀ p ∈ s.pieces, p.2.length % 2 = 0) :
    (s.step (.drain .cancelled)).Accounted := by
  obtain ⟨hclosed, hws, hrtp, hcount⟩ := h
  obtain ⟨drain, hdrain, hcancel⟩ := stepDrain_cancelled s.startup
  refine Accounted.congr (s := { s with startup := { s.startup with drain } }) ?_ ?_ rfl
  · have hreserved : ({ s with startup := { s.startup with drain } } : Intake).reserved = [] :=
      if_pos hclosed
    refine ⟨?_, heven, ?_, fun _ => hws, fun ho => ?_, fun _ => ⟨hdrain, hws, hrtp⟩, fun ho => ?_⟩
    · rw [outstanding, hreserved]
      rcases hdrain with rfl | rfl
      · simp [hrtp, hcount, Drain.inFlight]
      · simp [hrtp, hcount, Drain.inFlight]
    · rw [hreserved]
      rcases hdrain with rfl | rfl
      · simp [buffered, hws]
      · simp [buffered, hws]
    · exact absurd (hclosed.symm.trans ho) (by decide)
    · exact absurd (hclosed.symm.trans ho) (by decide)
  · simp only [step, hcancel]

lemma Settling.advance {a : Move} (h : (s.step a).Settling) : (s.advance a).Accounted := by
  unfold Intake.advance
  split
  next hclosed =>
    rcases h with h | ⟨hc, heven⟩
    · exact (h.cleared hclosed).accounted h.even
    · exact hc.accounted heven
  next hopen =>
    rcases h with h | ⟨hc, -⟩
    · exact h
    · exact absurd hc.closed hopen

lemma cleared_fail (startup : StartupAudio) (hopen : startup.closed = false) (code : String) :
    Cleared (startup.fail code) := by
  unfold StartupAudio.fail
  rw [if_neg (by simp [hopen])]
  exact ⟨rfl, rfl, rfl, rfl⟩

lemma Accounted.fail (h : s.Accounted) (code : String) :
    Settling { s with startup := s.startup.fail code } := by
  cases hc : s.startup.closed with
  | true =>
    have hsame : s.startup.fail code = s.startup := if_pos hc
    exact .inl (h.congr hsame rfl)
  | false => exact .inr ⟨cleared_fail _ hc code, h.even⟩

lemma Accounted.close (h : s.Accounted) : Settling { s with startup := s.startup.close } :=
  .inr ⟨⟨rfl, rfl, rfl, rfl⟩, h.even⟩

/-! ### Taking audio in -/

/-- `_reserve` counts a piece that fits; one that does not closes the startup. -/
lemma reserve_spec {startup : StartupAudio} (hopen : startup.closed = false) (size rate : ℕ) :
    (startup.reserve size rate =
        ({ startup with bytes24k := startup.bytes24k + cost size rate }, true) ∧
      startup.bytes24k + cost size rate ≤ StartupAudio.maxAudioSeconds * 24000 * 2) ∨
    ∃ startup', startup.reserve size rate = (startup', false) ∧ Cleared startup' := by
  unfold StartupAudio.reserve
  dsimp only
  split
  next =>
    refine .inr ⟨_, rfl, ?_⟩
    exact cleared_fail _ (by exact hopen) _
  next hfits => exact .inl ⟨rfl, not_lt.mp hfits⟩

/-- A piece that fits is stored, while there is no drain yet. -/
lemma Accounted.piece (h : s.Accounted) (hopen : s.startup.closed = false)
    (hidle : s.startup.drain = .idle) {pcm : List UInt8} (heven : pcm.length % 2 = 0)
    (hfits : s.startup.bytes24k + cost pcm.length 16000 ≤ StartupAudio.maxAudioSeconds * 24000 * 2)
    (sequence nextSeq : ℕ) :
    Accounted { s with
      startup := { s.startup with
        bytes24k := s.startup.bytes24k + cost pcm.length 16000
        ws := s.startup.ws ++ pcm
        nextSeq }
      pieces := s.pieces ++ [(sequence, pcm)] } := by
  have hcount := h.count
  have hstored := h.stored
  simp only [outstanding, buffered, reserved, hopen, hidle, Bool.false_eq_true, if_false]
    at hcount hstored
  refine ⟨?_, fun p hp => ?_, ?_, fun hw => absurd (Or.inl hidle) hw, fun _ => hfits,
    fun hc => absurd (hopen.symm.trans hc) (by decide),
    fun _ hd => absurd (hidle.symm.trans hd) (by decide)⟩
  · simp only [outstanding, reserved, hopen, hidle, Bool.false_eq_true, if_false,
      List.map_append, List.sum_append, List.map_cons, List.map_nil, List.sum_cons, List.sum_nil]
    rw [hcount]
    push_cast
    ring
  · rcases List.mem_append.mp hp with hp | hp
    · exact h.even p hp
    · rw [List.mem_singleton] at hp
      rw [hp]
      exact heven
  · simp only [buffered, reserved, hopen, hidle, Bool.false_eq_true, if_false, List.map_append,
      List.sum_append, List.map_cons, List.map_nil, List.sum_cons, List.sum_nil,
      List.length_append, hstored, Nat.add_zero]

/-- A frame that fits is queued, until the drain is through. -/
lemma Accounted.queue (h : s.Accounted) (hopen : s.startup.closed = false)
    (hlive : s.startup.drained = false) {frame : RtpFrame}
    (hfits : s.startup.bytes24k + frame.cost ≤ StartupAudio.maxAudioSeconds * 24000 * 2)
    (captured : List RtpFrame) :
    Accounted { s with
      startup := { s.startup with
        bytes24k := s.startup.bytes24k + frame.cost
        rtp := s.startup.rtp ++ [frame] }
      captured } := by
  refine ⟨?_, h.even, h.stored, h.emptied, fun _ => hfits,
    fun hc => absurd (hopen.symm.trans hc) (by decide),
    fun _ hd => absurd ((h.finished hopen hd).1.symm.trans hlive) (by decide)⟩
  have hcount := h.count
  change s.startup.bytes24k + frame.cost =
    (((s.reserved.map fun p => cost p.2.length 16000).sum +
      ((s.startup.rtp ++ [frame]).map RtpFrame.cost).sum + s.startup.drain.inFlight : ℕ) : ℤ)
  rw [hcount, outstanding, List.map_append, List.sum_append, List.map_singleton,
    List.sum_singleton]
  omega

lemma Accounted.appendWs (h : s.Accounted) (ho : s.Ordered) (sequence : ℕ) (pcm : List UInt8) :
    (s.appendWs sequence pcm).Settling := by
  unfold Intake.appendWs StartupAudio.appendWs
  by_cases hcc : (s.startup.closed || s.startup.complete) = true
  · rw [if_pos hcc, if_pos hcc]
    exact .inl h
  obtain ⟨hopen, hincomplete⟩ : s.startup.closed = false ∧ s.startup.complete = false := by
    simpa using hcc
  rw [if_neg hcc]
  by_cases hs : (sequence ≠ s.startup.nextSeq || pcm.isEmpty || pcm.length % 2 ≠ 0) = true
  · rw [if_pos hs, if_pos (by simp)]
    exact h.fail _
  rw [if_neg hs]
  have heven : pcm.length % 2 = 0 := by
    by_contra hodd
    simp [hodd] at hs
  have hidle : s.startup.drain = .idle := by
    by_contra hd
    exact absurd ((ho.complete hd).symm.trans hincomplete) (by decide)
  rcases reserve_spec hopen pcm.length 16000 with ⟨hr, hfits⟩ | ⟨startup', hr, hcleared⟩
  · simp only [hr]
    rw [if_neg hcc]
    exact .inl (h.piece hopen hidle heven hfits _ _)
  · simp only [hr, hcleared.closed, Bool.true_or, if_true]
    exact .inr ⟨hcleared, h.even⟩

lemma Accounted.inputFrame (h : s.Accounted) (frame : RtpFrame) :
    (s.inputFrame frame).Settling := by
  unfold Intake.inputFrame StartupAudio.appendRtp
  by_cases hclosed : s.startup.closed = true
  · simp only [if_pos hclosed]
    exact .inl h
  by_cases hdrained : s.startup.drained = true
  · simp only [if_neg hclosed, if_pos hdrained]
    exact .inl (h.congr rfl rfl)
  have hopen : s.startup.closed = false := by simpa using hclosed
  simp only [if_neg hclosed, if_neg hdrained]
  rcases reserve_spec hopen frame.audio.length frame.sampleRate with
    ⟨hr, hfits⟩ | ⟨startup', hr, hcleared⟩
  · simp only [hr, if_neg hclosed]
    exact .inl (h.queue hopen (by simpa using hdrained) hfits _)
  · simp only [hr, hcleared.closed, if_true]
    exact .inr ⟨hcleared, h.even⟩

/-! ### The drain -/

lemma Accounted.maybeDrain (h : s.Accounted) :
    Accounted { s with startup := s.startup.maybeDrain } := by
  unfold StartupAudio.maybeDrain
  split
  next hcond =>
    simp only [Bool.and_eq_true, Bool.not_eq_true', decide_eq_true_eq] at hcond
    obtain ⟨⟨⟨⟨⟨hopen, -⟩, -⟩, -⟩, -⟩, hidle⟩ := hcond
    have hcount := h.count
    have hstored := h.stored
    simp only [outstanding, buffered, reserved, hopen, hidle, Bool.false_eq_true, if_false]
      at hcount hstored
    refine ⟨?_, h.even, ?_, fun hw => absurd (Or.inr rfl) hw, h.bound, fun hc => ?_,
      fun _ hd => by cases hd⟩
    · simp only [outstanding, reserved, hopen, Bool.false_eq_true, if_false]
      exact hcount
    · simp only [buffered, reserved, hopen, Bool.false_eq_true, if_false]
      exact hstored
    · exact absurd (hopen.symm.trans hc) (by decide)
  next => exact h.congr rfl rfl

/-- The loop over the queue, where nothing else is outstanding. -/
lemma accounted_drainRtp (hopen : s.startup.closed = false) (hws : s.startup.ws = [])
    (heven : ∀ p ∈ s.pieces, p.2.length % 2 = 0)
    (hcount : s.startup.bytes24k = ((s.startup.rtp.map RtpFrame.cost).sum : ℕ))
    (hbound : s.startup.bytes24k ≤ StartupAudio.maxAudioSeconds * 24000 * 2) :
    (s.drainTo s.startup.drainRtp).Accounted := by
  unfold StartupAudio.drainRtp
  rw [if_neg (by simp [hopen])]
  cases hrtp : s.startup.rtp with
  | nil =>
    refine ⟨?_, heven, ?_, fun _ => hws, fun _ => hbound, fun hc => ?_, fun _ _ => ⟨rfl, rfl⟩⟩
    · simp only [hrtp] at hcount
      simpa [drainTo, outstanding, reserved, hopen, hrtp, Drain.inFlight] using hcount
    · simp [drainTo, buffered, reserved, hopen, hws]
    · exact absurd (hopen.symm.trans hc) (by decide)
  | cons frame rest =>
    refine ⟨?_, heven, ?_, fun _ => hws, fun _ => hbound, fun hc => ?_, fun _ hd => by cases hd⟩
    · simp only [hrtp, List.map_cons, List.sum_cons] at hcount
      simp only [drainTo, outstanding, reserved, hopen, Drain.inFlight, Bool.false_eq_true,
        if_false, List.map_nil, List.sum_nil]
      rw [hcount]
      push_cast
      ring
    · simp [drainTo, buffered, reserved, hopen, hws]
    · exact absurd (hopen.symm.trans hc) (by decide)

/-- The loop over the socket's audio, with a drain that has taken it. -/
lemma accounted_drainPcm {total : ℕ} (rest : List UInt8) (hopen : s.startup.closed = false)
    (hrate : s.startup.inputRate = .r16000) (hws : s.startup.ws = [])
    (heven : ∀ p ∈ s.pieces, p.2.length % 2 = 0)
    (htotal : total = (s.pieces.map fun p => p.2.length).sum)
    (hcount : s.startup.bytes24k =
      (cost total 16000 + (s.startup.rtp.map RtpFrame.cost).sum : ℕ))
    (hbound : s.startup.bytes24k ≤ StartupAudio.maxAudioSeconds * 24000 * 2) :
    (s.drainTo (s.startup.drainPcm total rest)).Accounted := by
  unfold StartupAudio.drainPcm
  split
  next =>
    -- all of it is released at once
    have hreleased : s.startup.bytes24k - (total * 24000 / s.startup.inputRate.hz : ℕ) =
        ((s.startup.rtp.map RtpFrame.cost).sum : ℕ) := by
      rw [hcount, hrate]
      unfold cost InputRate.hz
      push_cast
      ring
    refine accounted_drainRtp
      (s := { s with startup := { s.startup with bytes24k := _ } }) hopen hws heven hreleased ?_
    have hnonneg : (0 : ℤ) ≤ (total * 24000 / s.startup.inputRate.hz : ℕ) := Int.natCast_nonneg _
    dsimp only
    linarith
  next =>
    rw [if_neg (by simp [hopen])]
    refine ⟨?_, heven, ?_, fun _ => hws, fun _ => hbound, fun hc => ?_, fun _ hd => by cases hd⟩
    · simp only [drainTo, outstanding, reserved, hopen, Drain.inFlight, Bool.false_eq_true,
        if_false, Nat.add_zero]
      rw [hcount, (cost_pieces heven).1, htotal]
    · simp only [drainTo, buffered, reserved, hopen, Bool.false_eq_true, if_false]
      exact htotal
    · exact absurd (hopen.symm.trans hc) (by decide)

lemma Accounted.raised (h : s.Accounted) (hopen : s.startup.closed = false) (code : String) :
    (s.drainTo ({ s.startup.fail code with drain := .done }, [])).Settling := by
  obtain ⟨hc, hws, hrtp, hcount⟩ := cleared_fail _ hopen code
  exact .inr ⟨⟨hc, hws, hrtp, hcount⟩, h.even⟩

lemma Accounted.stepDrain (h : s.Accounted) (ho : s.Ordered) {event : StartupAudio.DrainEvent}
    (hevent : event ≠ .cancelled) : (s.drainTo (s.startup.stepDrain event)).Settling := by
  have hstay : (s.drainTo (s.startup, [])).Settling := .inl (h.congr rfl rfl)
  have hbusy : s.startup.drain ≠ .idle → s.startup.drain ≠ .done → s.startup.closed = false := by
    intro hi hd
    by_contra hc
    rw [Bool.not_eq_false] at hc
    rcases (h.closed hc).1 with he | he
    · exact hi he
    · exact hd he
  have hcount := h.count
  have hstored := h.stored
  unfold StartupAudio.stepDrain
  cases hdrain : s.startup.drain with
  | idle => exact hstay
  | done => exact hstay
  | resampling => exact absurd hdrain ho.plain
  | created =>
    have hopen := hbusy (by simp [hdrain]) (by simp [hdrain])
    simp only [outstanding, buffered, reserved, hopen, hdrain, Bool.false_eq_true, if_false,
      Drain.inFlight, Nat.add_zero] at hcount hstored
    cases event with
    | run =>
      dsimp only
      rw [if_neg (by simp [ho.rate])]
      left
      refine accounted_drainPcm (s := { s with startup := { s.startup with ws := [] } }) _ hopen
        ho.rate rfl h.even hstored ?_ (h.bound hopen)
      rw [hstored, ← (cost_pieces h.even).1]
      exact hcount
    | raised => exact h.raised hopen _
    | cancelled => exact absurd rfl hevent
    | returned => exact hstay
    | resampled => exact hstay
  | sendingPcm total rest =>
    have hopen := hbusy (by simp [hdrain]) (by simp [hdrain])
    have hws := h.emptied (by simp [Waiting, hdrain])
    simp only [outstanding, buffered, reserved, hopen, hdrain, Bool.false_eq_true, if_false,
      Drain.inFlight, Nat.add_zero] at hcount hstored
    cases event with
    | returned =>
      left
      refine accounted_drainPcm _ hopen ho.rate hws h.even hstored ?_ (h.bound hopen)
      rw [hstored, ← (cost_pieces h.even).1]
      exact hcount
    | raised => exact h.raised hopen _
    | cancelled => exact absurd rfl hevent
    | run => exact hstay
    | resampled => exact hstay
  | sendingRtp frame =>
    have hopen := hbusy (by simp [hdrain]) (by simp [hdrain])
    have hws := h.emptied (by simp [Waiting, hdrain])
    have hbound := h.bound hopen
    simp only [outstanding, reserved, hopen, hdrain, Bool.false_eq_true, if_false,
      Drain.inFlight, List.map_nil, List.sum_nil, Nat.zero_add] at hcount
    cases event with
    | returned =>
      left
      have hnonneg : (0 : ℤ) ≤ frame.cost := Int.natCast_nonneg _
      have hreleased : s.startup.bytes24k -
          (frame.audio.length * 24000 / frame.sampleRate : ℕ) =
          ((s.startup.rtp.map RtpFrame.cost).sum : ℕ) := by
        rw [hcount]
        unfold RtpFrame.cost cost
        push_cast
        ring
      refine accounted_drainRtp
        (s := { s with startup := { s.startup with bytes24k := _ } }) hopen hws h.even hreleased ?_
      dsimp only
      rw [hreleased]
      rw [hcount] at hbound
      push_cast at hbound ⊢
      linarith
    | raised => exact h.raised hopen _
    | cancelled => exact absurd rfl hevent
    | run => exact hstay
    | resampled => exact hstay

/-! ### Runs -/

lemma Accounted.step (h : s.Accounted) (ho : s.Ordered) (a : Move) :
    (s.step a).Settling := by
  obtain ⟨a, hmove⟩ := a
  cases a with
  | appendWs sequence pcm => exact h.appendWs ho sequence pcm
  | inputFrame frame => exact h.inputFrame frame
  | finishWs startupId nextSeq =>
    simp only [Intake.step]
    unfold StartupAudio.finishWs
    split
    · exact .inl h
    · split
      · exact h.fail _
      · have hcomplete : Accounted { s with startup := { s.startup with complete := true } } :=
          ⟨h.count, h.even, h.stored, h.emptied, h.bound, h.closed, h.finished⟩
        exact .inl hcomplete.maybeDrain
  | bind =>
    have hbound : Accounted { s with startup := { s.startup with bound := true } } :=
      ⟨h.count, h.even, h.stored, h.emptied, h.bound, h.closed, h.finished⟩
    exact .inl hbound.maybeDrain
  | ready =>
    have hready : Accounted { s with startup := { s.startup with providerReady := true } } :=
      ⟨h.count, h.even, h.stored, h.emptied, h.bound, h.closed, h.finished⟩
    exact .inl hready.maybeDrain
  | drain event => exact h.stepDrain ho fun he => hmove (congrArg _ he)
  | fail code => exact h.fail code
  | timeout =>
    simp only [Intake.step]
    split
    · exact h.fail _
    · exact .inl h
  | endFrame => exact h.close
  | close => exact h.close

lemma Ordered.advance (h : s.Ordered) (a : Move) : (s.advance a).Ordered := by
  unfold Intake.advance
  split
  · exact (h.step a).step _
  · exact h.step a

lemma accounted_after (id : ℤ) (acts : List Move) :
    (after advance (start id .r16000) acts).Accounted ∧
      (after advance (start id .r16000) acts).Ordered :=
  Throughout.invariant (I := fun s : Intake => s.Accounted ∧ s.Ordered) (P := fun _ _ => True)
    (fun _ a hs _ => ⟨(hs.1.step hs.2 a).advance, hs.2.advance a⟩)
    ⟨accounted_start id, ordered_start id⟩ (Throughout.of_forall (fun _ _ => trivial) _ acts)

/-- **The counter is what the reserved audio costs.** Whatever the order of the chunks, the frames
and the steps of the drain: it is the sum of the costs of the pieces reserved and not released,
never negative, never above 15 seconds while the startup is open, and zero when the drain is
through; and the PCM stored or taken is as long as the chunks reserved. -/
theorem accounting (id : ℤ) (acts : List Move) :
    let s := after advance (start id .r16000) acts
    s.startup.bytes24k =
      ((s.reserved.map fun p => p.2.length * 24000 / 16000).sum +
        (s.startup.rtp.map fun f => f.audio.length * 24000 / f.sampleRate).sum +
        s.startup.drain.inFlight : ℕ) ∧
    s.buffered = (s.reserved.map fun p => p.2.length).sum ∧
    0 ≤ s.startup.bytes24k ∧
    (s.startup.closed = false → s.startup.bytes24k ≤ 15 * 24000 * 2) ∧
    (s.startup.drained = true → s.startup.bytes24k = 0) := by
  intro s
  obtain ⟨h, ho⟩ : s.Accounted ∧ s.Ordered := accounted_after id acts
  refine ⟨h.count, h.stored, h.nonneg, h.bound, fun hd => ?_⟩
  cases hc : s.startup.closed with
  | true => exact (h.cleared hc).count
  | false =>
    have hdone := ho.cut hd
    rw [h.count, outstanding, reserved, hc, hdone, (h.finished hc hdone).2]
    rfl

end Intake

end Vauxr.Voice
