import Mathlib
import Vauxr.Voice.Exclusion

/-!
Stale sockets have no effect.

A message is authorized once, before its handler waits for a teardown. `_realtime_start` looks
again behind its own; what else goes on behind a teardown or out of a task does not. As long as
such work meets a socket that still has its device, nothing that runs for a stale socket changes
the registry or the realtime wake of the device.
-/

namespace Vauxr.Voice

open Vauxr.Lib

namespace Server

/-- The socket for which the action runs: a message, what it left behind, the turn that it started,
or the end of its handler. -/
def actor (s : Server) : Action → Option ℕ
  | .message ws _ _ _ | .disconnect ws _ => some ws
  | .resume i _ => s.suspended[i]?.map (·.ws)
  | .turn event _ _ | .rescue event => (s.jobs.get? event).map (·.ws)
  | _ => none

/-- Registry and wakes are as before. A session that was closed may be gone. -/
structure Inert (s s' : Server) : Prop where
  registry : s'.registry = s.registry
  wakes : s'.manager.wakes = s.manager.wakes
  deviceWakes : s'.manager.deviceWakes = s.manager.deviceWakes
  startups : s'.manager.startups = s.manager.startups
  startupTable : s'.manager.startupTable = s.manager.startupTable
  liveDevices : s'.manager.liveDevices = s.manager.liveDevices

/-- The socket has the device, and its credential is current. -/
def speaks (s : Server) (ws : ℕ) (deviceId : String) : Bool :=
  s.deviceWs deviceId = some ws && s.current (s.ctx ws).principal

/-- The work finds its socket in place where it does not look itself: where `_stop_wake` goes on to
clear the wake, where `voice.start` or an accepted `voice.end` follows a teardown, where the end of
a socket takes out its entry, where the failure of a startup has been sent, and where a prompt is
taken. -/
def Attended (s : Server) (c : Suspended) (settings : Settings) : Prop :=
  match c.cont with
  | .stopWake captured next =>
    (Server.wakeStands { s with manager := s.manager.forget c.deviceId captured.session } c.deviceId
        captured = true →
      s.current (s.ctx c.ws).principal = true ∧
        (next = .unregister → s.deviceWs c.deviceId = some c.ws)) ∧
      (next = .voiceStart ∨ next = .voiceEnd ∧ (s.ctx c.ws).state = .listening ∨
          next = .unregister ∧ s.deviceWs c.deviceId = some c.ws →
        s.speaks c.ws c.deviceId = true)
  | .failed .. => True
  | .failedSent key =>
    s.startupStands c.ws c.deviceId key = true → s.speaks c.ws c.deviceId = true
  | .button =>
    ∀ text ∈ settings.button, ∀ entry, s.registry.get? c.deviceId = some entry →
      takesPrompt entry text = true → s.speaks c.ws c.deviceId = true

/-- What follows the sent `audio.end` of a prompt writes the state of the device. -/
def writesEnd (s : Server) (job : Job) (world : TurnWorld) : Bool :=
  match job.ending with
  | some .session => world.sessionState.isSome
  | some (.plain _ wake ws) =>
    world.delivered && s.manager.session? job.deviceId = none &&
      s.manager.wakes.get? job.deviceId = wake && s.deviceWs job.deviceId = ws
  | none => false

/-- The step is the last of its turn. -/
def lastStep (s : Server) (event : ℕ) (job : Job) (input : TurnInput) (world : TurnWorld) : Bool :=
  (job.turn.step (s.turnEnv event world) input).1.main = .done && !job.finished

/-- The step is the last of a turn that has failed. -/
def lastRescue (s : Server) (event : ℕ) (job : Job) : Bool :=
  job.turn.main = .raised && job.turn.queue.worker = .done && !job.finished &&
    (job.prompt || job.rescued || s.aborted event)

/-- What a message left behind goes on for a socket in place; so does a turn that still owns its
entry at its end, or that writes behind its sent `audio.end`; and so does the end of a socket that
no newer one has replaced. -/
def Guarded (s : Server) : Action → Prop
  | .resume i settings => ∀ c, s.suspended[i]? = some c → s.Attended c settings
  | .turn event input world =>
    ∀ job, s.jobs.get? event = some job →
      (endsNow job input && s.writesEnd job world ||
          s.lastStep event job input world && s.owns event job) = true →
        s.speaks job.ws job.deviceId = true
  | .rescue event =>
    ∀ job, s.jobs.get? event = some job →
      (s.lastRescue event job && s.owns event job) = true → s.speaks job.ws job.deviceId = true
  | .disconnect ws _ =>
    ∀ d, (s.ctx ws).deviceId = some d → s.deviceWs d = none ∨ s.deviceWs d = some ws →
      s.speaks ws d = true
  | _ => True

/-! ### What is known of the sockets -/

/-- The teardown at the end of a socket only unregisters it; that of a message or a task captured
the socket it runs for. -/
def Formed (c : Suspended) : Prop :=
  match c.cont with
  | .stopWake captured next =>
    c.kind = .teardown ∧ next = .unregister ∨
      c.kind ≠ .teardown ∧ captured.ws = some c.ws ∧ next ≠ .unregister
  | _ => c.kind ≠ .teardown

/-- The socket of an entry is the latest of its device, and bound to it; a socket that was
superseded or is in a realtime session has a principal. -/
structure Bound (s : Server) : Prop where
  latest : ∀ d ws, s.deviceWs d = some ws → ws ∉ s.superseded ∧ (s.ctx ws).deviceId = some d
  known : ∀ ws ∈ s.superseded, (s.ctx ws).principal ≠ none
  paired : ∀ ws, (s.ctx ws).deviceId ≠ none → (s.ctx ws).principal ≠ none
  media : ∀ ws, (s.ctx ws).realtimeMedia = true → (s.ctx ws).principal ≠ none
  conts : ∀ c ∈ s.suspended, Formed c

variable {s s' s'' : Server} {ws : ℕ} {d : String} {settings : Settings}

lemma Bound.not_stale (h : s.Bound) (hs : s.speaks ws d = true) : s.stale ws = false := by
  simp only [speaks, Bool.and_eq_true, decide_eq_true_eq, current, Option.any_eq_true] at hs
  obtain ⟨hws, p, hp, hcurrent⟩ := hs
  have hsup := (h.latest d ws hws).1
  simp only [stale, Bool.or_eq_false_iff, decide_eq_false_iff_not]
  refine ⟨hsup, ?_⟩
  rw [hp]
  simpa using hcurrent

/-- Entries keep their sockets and sockets their devices, and nothing is suspended. -/
structure Quiet (s s' : Server) : Prop where
  ws : ∀ d, s'.deviceWs d = s.deviceWs d
  superseded : s'.superseded = s.superseded
  suspended : s'.suspended = s.suspended
  principal : ∀ ws, (s'.ctx ws).principal = (s.ctx ws).principal
  deviceId : ∀ ws, (s'.ctx ws).deviceId = (s.ctx ws).deviceId
  media : ∀ ws, (s'.ctx ws).realtimeMedia = true →
    (s.ctx ws).realtimeMedia = true ∨ (s.ctx ws).principal ≠ none

lemma Quiet.refl (s : Server) : Quiet s s :=
  ⟨fun _ => rfl, rfl, rfl, fun _ => rfl, fun _ => rfl, fun _ h => Or.inl h⟩

lemma Quiet.trans (h : Quiet s s') (h' : Quiet s' s'') : Quiet s s'' where
  ws d := (h'.ws d).trans (h.ws d)
  superseded := h'.superseded.trans h.superseded
  suspended := h'.suspended.trans h.suspended
  principal ws := (h'.principal ws).trans (h.principal ws)
  deviceId ws := (h'.deviceId ws).trans (h.deviceId ws)
  media ws hm := by
    rcases h'.media ws hm with hm | hp
    · exact h.media ws hm
    · exact Or.inr (h.principal ws ▸ hp)

/-- Only the registry has changed, and no socket in it. -/
lemma Quiet.of_registry (hctx : s'.ctxs = s.ctxs) (hsup : s'.superseded = s.superseded)
    (hsusp : s'.suspended = s.suspended) (hws : ∀ d, s'.deviceWs d = s.deviceWs d) :
    Quiet s s' where
  ws := hws
  superseded := hsup
  suspended := hsusp
  principal ws := by rw [ctx_congr hctx]
  deviceId ws := by rw [ctx_congr hctx]
  media ws hm := by
    rw [ctx_congr hctx] at hm
    exact Or.inl hm

/-- None of all this has changed. -/
lemma Quiet.of_same (hctx : s'.ctxs = s.ctxs) (hsup : s'.superseded = s.superseded)
    (hsusp : s'.suspended = s.suspended) (hreg : s'.registry = s.registry) : Quiet s s' :=
  .of_registry hctx hsup hsusp fun d => by rw [deviceWs, hreg, deviceWs]

lemma ctx_setCtx_eq (f : Ctx → Ctx) (ws' : ℕ) :
    (s.setCtx ws f).ctx ws' = if ws = ws' then f (s.ctx ws) else s.ctx ws' := by
  simp only [Server.setCtx, Server.ctx, Dict.get?_set]
  split <;> rfl

/-- A context changes, but not who it belongs to. -/
lemma Quiet.setCtx (f : Ctx → Ctx) (hp : (f (s.ctx ws)).principal = (s.ctx ws).principal)
    (hd : (f (s.ctx ws)).deviceId = (s.ctx ws).deviceId)
    (hm : (f (s.ctx ws)).realtimeMedia = true →
      (s.ctx ws).realtimeMedia = true ∨ (s.ctx ws).principal ≠ none) :
    Quiet s (s.setCtx ws f) where
  ws _ := rfl
  superseded := rfl
  suspended := rfl
  principal ws' := by
    rw [ctx_setCtx_eq]
    split
    · next h => rw [hp, h]
    · rfl
  deviceId ws' := by
    rw [ctx_setCtx_eq]
    split
    · next h => rw [hd, h]
    · rfl
  media ws' h := by
    rw [ctx_setCtx_eq] at h
    split at h
    · next he => exact he ▸ hm h
    · exact Or.inl h

lemma deviceWs_modify (r : Registry) (f : Entry → Entry) (hf : ∀ entry, (f entry).ws = entry.ws)
    (d' : String) : ((r.modify d f).get? d').map (·.ws) = (r.get? d').map (·.ws) := by
  rw [Registry.get?_modify]
  split
  · next hd =>
    subst hd
    rw [Option.map_map]
    cases r.get? d with
    | none => rfl
    | some entry => exact congrArg some (hf entry)
  · rfl

lemma Quiet.setState (state : DeviceState) : Quiet s (s.setState d state) :=
  .of_registry rfl rfl rfl fun d' =>
    deviceWs_modify (d := d) s.registry (fun entry => { entry with state }) (fun _ => rfl) d'

lemma Quiet.setAbortEvent (event : Option ℕ) :
    Quiet s { s with registry := s.registry.setAbortEvent d event } :=
  .of_registry rfl rfl rfl fun d' =>
    deviceWs_modify (d := d) s.registry (fun entry => { entry with abortEvent := event })
      (fun _ => rfl) d'

lemma Quiet.abort : Quiet s (s.abortActiveTurn d) := by
  refine .of_registry rfl rfl rfl fun d' => ?_
  show ((s.registry.abortActiveTurn d).get? d').map (·.ws) = (s.registry.get? d').map (·.ws)
  rw [Registry.get?_abortActiveTurn]
  split
  · next hd =>
    subst hd
    rw [Option.map_map]
    rfl
  · rfl

lemma Quiet.manager (m : Manager) : Quiet s { s with manager := m } := .of_same rfl rfl rfl rfl

lemma Quiet.reply (r : Reply) : Quiet s (s.reply ws r) := .of_same rfl rfl rfl rfl

lemma Quiet.close : Quiet s (s.close ws) := .of_same rfl rfl rfl rfl

lemma Quiet.startTurn (prompt : Bool) (turn : Turn) : Quiet s (s.startTurn ws d prompt turn) :=
  .of_registry rfl rfl rfl fun d' =>
    deviceWs_modify (d := d) s.registry.fresh.2
      (fun entry => { entry with abortEvent := some s.registry.next }) (fun _ => rfl) d'

lemma Bound.quiet (h : s.Bound) (hq : Quiet s s') : s'.Bound where
  latest d ws hws := by
    rw [hq.superseded, hq.deviceId]
    exact h.latest d ws (hq.ws d ▸ hws)
  known ws hws := by
    rw [hq.principal]
    exact h.known ws (hq.superseded ▸ hws)
  paired ws hd := by
    rw [hq.principal]
    exact h.paired ws (hq.deviceId ws ▸ hd)
  media ws hm := by
    rw [hq.principal]
    exact (hq.media ws hm).elim (h.media ws) id
  conts c hc := h.conts c (hq.suspended ▸ hc)

/-- The socket may register for the device. -/
structure Able (s : Server) (ws : ℕ) (d : String) : Prop where
  superseded : ws ∉ s.superseded
  deviceId : (s.ctx ws).deviceId = some d

lemma Able.quiet (h : s.Able ws d) (hq : Quiet s s') : s'.Able ws d :=
  ⟨hq.superseded ▸ h.superseded, (hq.deviceId ws).trans h.deviceId⟩

lemma Bound.able (h : s.Bound) (hws : s.deviceWs d = some ws) : s.Able ws d :=
  ⟨(h.latest d ws hws).1, (h.latest d ws hws).2⟩

lemma speaks_ws (h : s.speaks ws d = true) : s.deviceWs d = some ws := by
  simp only [speaks, Bool.and_eq_true, decide_eq_true_eq] at h
  exact h.1

lemma deviceWs_register (d' : String) :
    (s.register ws d).deviceWs d' = if d = d' then some ws else s.deviceWs d' := by
  show ((s.registry.register d ws).get? d').map (·.ws) = _
  rw [Registry.get?_register]
  split <;> rfl

/-- **A socket registers.** -/
lemma Bound.register (h : s.Bound) (ha : s.Able ws d) :
    (s.register ws d).Bound ∧ (s.register ws d).Able ws d := by
  have hmem : ∀ ws', ws' ∈ (s.register ws d).superseded → ws' ∈ s.superseded ∨
      ws' ≠ ws ∧ (s.ctx ws').deviceId = some d := by
    intro ws' hws'
    rcases List.mem_append.mp hws' with hws' | hws'
    · obtain ⟨⟨k, c⟩, hc, rfl⟩ := List.mem_map.mp hws'
      obtain ⟨hmem, hne⟩ := List.mem_filter.mp hc
      simp only [decide_eq_true_eq] at hne
      refine Or.inr ⟨hne.1, ?_⟩
      rw [Server.ctx, Dict.mem_entries.mp hmem]
      exact hne.2
    · exact Or.inl hws'
  have hself : ws ∉ (s.register ws d).superseded := fun hws => by
    rcases hmem ws hws with hws | ⟨hne, -⟩
    · exact ha.superseded hws
    · exact hne rfl
  refine ⟨⟨fun d' ws' hws' => ?_, fun ws' hws' => ?_, h.paired, h.media, h.conts⟩,
    hself, ha.deviceId⟩
  · rw [deviceWs_register] at hws'
    split at hws'
    · next hd =>
      cases hws'
      exact ⟨hself, hd ▸ ha.deviceId⟩
    · next hd =>
      obtain ⟨h1, h2⟩ := h.latest d' ws' hws'
      refine ⟨fun hsup => ?_, h2⟩
      rcases hmem ws' hsup with hsup | ⟨-, hdev⟩
      · exact h1 hsup
      · rw [h2] at hdev
        cases hdev
        exact hd rfl
  · rcases hmem ws' hws' with hws' | ⟨-, hdev⟩
    · exact h.known ws' hws'
    · refine h.paired ws' ?_
      rw [hdev]
      simp

lemma Bound.unregister (h : s.Bound) :
    Bound { s with registry := s.registry.unregister d ws } := by
  refine ⟨fun d' ws' hws' => ?_, h.known, h.paired, h.media, h.conts⟩
  refine h.latest d' ws' ?_
  have hws' : ((s.registry.unregister d ws).get? d').map (·.ws) = some ws' := hws'
  rw [Registry.get?_unregister] at hws'
  split at hws'
  · cases hws'
  · exact hws'

lemma Bound.suspend (h : s.Bound) {c : Suspended} (hc : Formed c) :
    Bound { s with suspended := s.suspended ++ [c] } := by
  refine ⟨h.latest, h.known, h.paired, h.media, fun c' hc' => ?_⟩
  rcases List.mem_append.mp hc' with hc' | hc'
  · exact h.conts c' hc'
  · rw [List.mem_singleton] at hc'
    subst hc'
    exact hc

/-! ### Turns -/

section Turns

variable {event : ℕ} {job : Job}

lemma Quiet.writeState (state : DeviceState) : Quiet s (s.writeState event job state) := by
  have hs : Quiet s { s with resets := ⟨event, s.owns event job⟩ :: s.resets } :=
    .of_same rfl rfl rfl rfl
  exact hs.trans (Quiet.setState state)

lemma Quiet.setJob (job' : Job) : Quiet s (s.setJob event job') := .of_same rfl rfl rfl rfl

lemma Quiet.emit (frame : Frame) : Quiet s (s.emit event ws frame) := .of_same rfl rfl rfl rfl

lemma Quiet.completeEnding (world : TurnWorld) : Quiet s (s.completeEnding event job world) := by
  unfold Server.completeEnding
  split
  · split
    · exact Quiet.writeState _
    · exact Quiet.refl s
  · split
    · exact Quiet.writeState _
    · exact Quiet.refl s
  · exact Quiet.refl s

lemma Quiet.promptAudioEnd (followUp : Bool) (world : TurnWorld) :
    Quiet s (s.promptAudioEnd event job followUp world) := by
  unfold Server.promptAudioEnd
  split
  · split
    · simp only
      split
      · exact (Quiet.setJob _).trans (Quiet.emit _)
      · exact Quiet.setJob _
    · split
      · exact Quiet.refl s
      · exact (Quiet.setJob _).trans (Quiet.emit _)
  · exact Quiet.refl s

lemma Quiet.send (frame : Frame) (world : TurnWorld) : Quiet s (s.send event job frame world) := by
  unfold Server.send
  split
  · split
    · exact Quiet.promptAudioEnd _ world
    · split
      · exact Quiet.refl s
      · exact Quiet.emit _
  · split
    · exact Quiet.refl s
    · exact Quiet.emit _

lemma Quiet.finish : Quiet s (s.finish event job) := by
  have hs : Quiet s (s.setJob event { job with finished := true }) := Quiet.setJob _
  unfold Server.finish
  simp only
  split
  · split
    · split
      · exact (hs.trans (Quiet.writeState .idle)).trans (Quiet.setAbortEvent none)
      · exact hs.trans (Quiet.setAbortEvent none)
    · have hctx : Quiet (s.setJob event { job with finished := true })
          ((s.setJob event { job with finished := true }).setCtx job.ws fun c =>
            { c with state := .idle }) := Quiet.setCtx _ rfl rfl Or.inl
      exact ((hs.trans hctx).trans (Quiet.writeState .idle)).trans (Quiet.setAbortEvent none)
  · exact hs

lemma Quiet.stepTurn (input : TurnInput) (world : TurnWorld) :
    Quiet s (s.stepTurn event job input world) := by
  unfold Server.stepTurn
  have h₁ : ∀ b : Bool, Quiet s (if b then s.completeEnding event job world else s) := by
    intro b
    cases b
    · exact Quiet.refl s
    · exact Quiet.completeEnding world
  have hq := h₁ (endsNow job input)
  generalize (if endsNow job input then s.completeEnding event job world else s) = s₁ at hq
  simp only
  generalize job.turn.step (s₁.turnEnv event world) input = r
  obtain ⟨turn, frame⟩ := r
  have hset : Quiet s (s₁.setJob event { job with turn }) := hq.trans (Quiet.setJob _)
  have hfinish : ∀ s₃ : Server, Quiet s s₃ →
      Quiet s (if turn.main = .done ∧ job.finished = false then
        s₃.finish event ((s₃.jobs.get? event).getD { job with turn }) else s₃) := by
    intro s₃ hs₃
    split
    · exact hs₃.trans Quiet.finish
    · exact hs₃
  cases frame with
  | none => exact hfinish _ hset
  | some frame => exact hfinish _ (hset.trans (Quiet.send frame world))

lemma Quiet.rescue : Quiet s (s.rescue event job) := by
  unfold Server.rescue
  split
  · split
    · exact Quiet.finish
    · simp only
      split
      · exact Quiet.setJob _
      · exact (Quiet.setJob _).trans (Quiet.emit _)
  · exact Quiet.refl s

end Turns

/-! ### Handlers -/

section Handlers

variable {kind : Kind} {next : Next}

lemma Quiet.voiceAbort : Quiet s (s.voiceAbort ws d) :=
  (Quiet.abort.trans (Quiet.setState .idle)).trans (Quiet.setCtx _ rfl rfl Or.inl)

lemma Quiet.wakeStopped (captured : Captured) : Quiet s (s.wakeStopped d captured) := by
  unfold Server.wakeStopped
  split
  · exact (Quiet.manager _).trans (Quiet.setState .idle)
  · exact Quiet.refl s

lemma Bound.stopWake (h : s.Bound)
    (hc : kind = .teardown ∧ next = .unregister ∨
      kind ≠ .teardown ∧ s.deviceWs d = some ws ∧ next ≠ .unregister)
    {k : Server → Server} (hk : ∀ s', Quiet s s' → s'.Bound → (k s').Bound) :
    (s.stopWake ws d kind next k).Bound := by
  have hq : Quiet s { s with manager := s.manager.closeStartup d } := Quiet.manager _
  unfold Server.stopWake
  simp only
  split
  · exact (h.quiet hq).suspend hc
  · have hq' := hq.trans (Quiet.wakeStopped (d := d)
      ⟨s.manager.session? d, s.manager.wakes.get? d, s.deviceWs d⟩)
    exact hk _ hq' (h.quiet hq')

lemma Bound.realtimeStop (h : s.Bound) (hkind : kind ≠ .teardown) (hws : s.deviceWs d = some ws)
    (hnext : next ≠ .unregister) {k : Server → Server}
    (hk : ∀ s', Quiet s s' → s'.Bound → (k s').Bound) :
    (s.realtimeStop ws d kind next k).Bound := by
  have hq : Quiet s ((s.voiceAbort ws d).setCtx ws fun c =>
      { c with realtime := false, realtimeMedia := false, startup := none }) :=
    Quiet.voiceAbort.trans (Quiet.setCtx _ rfl rfl fun hm => by cases hm)
  exact (h.quiet hq).stopWake (Or.inr ⟨hkind, (hq.ws d).trans hws, hnext⟩)
    fun s' hq' hs' => hk s' (hq.trans hq') hs'

lemma Bound.hello (h : s.Bound) (ha : s.Able ws d) : (s.hello ws d).Bound :=
  (h.register ha).1.quiet (Quiet.reply _)

lemma Bound.voiceStart (h : s.Bound) (ha : s.Able ws d) : (s.voiceStart ws d settings).Bound := by
  have hq : Quiet s (s.abortActiveTurn d) := Quiet.abort
  unfold Server.voiceStart
  simp only
  split
  · have hq' : Quiet s ((s.abortActiveTurn d).setCtx ws fun c => { c with state := .listening }) :=
      hq.trans (Quiet.setCtx _ rfl rfl Or.inl)
    exact ((h.quiet hq').register (ha.quiet hq')).1.quiet
      ((Quiet.setState .listening).trans (Quiet.reply _))
  · exact h.quiet ((hq.trans (Quiet.reply _)).trans (Quiet.setCtx _ rfl rfl Or.inl))

lemma Quiet.voiceEnd : Quiet s (s.voiceEnd ws d) := by
  unfold Server.voiceEnd
  split
  · exact Quiet.reply _
  · have hq : Quiet s (s.setCtx ws fun c => { c with state := .processing }) :=
      Quiet.setCtx _ rfl rfl Or.inl
    exact (hq.trans (Quiet.setState .processing)).trans (Quiet.startTurn false _)

lemma Able.principal (h : s.Bound) (ha : s.Able ws d) : (s.ctx ws).principal ≠ none := by
  refine h.paired ws ?_
  rw [ha.deviceId]
  simp

lemma Bound.realtimeArm (h : s.Bound) (explicitLive persistedLive : Bool)
    (startupId : Option ℤ) :
    (s.realtimeArm ws d explicitLive persistedLive startupId).Bound := by
  unfold Server.realtimeArm
  split
  · exact h.quiet Quiet.close
  · next hcheck =>
    simp only [Bool.or_eq_true, not_or, decide_eq_true_eq, not_not] at hcheck
    have hws := hcheck.2
    have hp := Able.principal h (h.able hws)
    split
    · simp only
      have hq : Quiet s (s.setCtx ws fun c => { c with realtime := true, realtimeMedia := true }) :=
        Quiet.setCtx _ rfl rfl fun _ => Or.inr hp
      exact h.quiet (((hq.trans (Quiet.manager _)).trans (Quiet.setState .listening)).trans
        (Quiet.reply _))
    · have hq : Quiet s (s.setCtx ws fun c => { c with realtime := true, realtimeMedia := false }) :=
        Quiet.setCtx _ rfl rfl fun hm => by cases hm
      simp only
      split
      · exact (h.quiet hq).realtimeStop (by decide) ((hq.ws d).trans hws) (by simp)
          fun s' _ hs' => hs'.quiet (Quiet.reply _)
      · refine h.quiet (hq.trans ?_)
        refine Quiet.trans ?_ (Quiet.reply _)
        refine Quiet.trans ?_ (Quiet.setState .listening)
        refine Quiet.trans ?_ (Quiet.setCtx _ rfl rfl Or.inl)
        exact .of_registry rfl rfl rfl fun _ => rfl

lemma Bound.proceed (h : s.Bound) (ha : next = .voiceStart → s.Able ws d) :
    (s.proceed ws d settings next).Bound := by
  cases next with
  | nothing => exact h
  | voiceStart => exact h.voiceStart (ha rfl)
  | voiceEnd => exact h.quiet Quiet.voiceEnd
  | realtimeStart live persisted startupId => exact h.realtimeArm live persisted startupId
  | startupRequired => exact h.quiet (Quiet.reply _)
  | unregister => exact h.unregister

lemma Bound.realtimeStart (h : s.Bound) (ha : s.Able ws d) (msg : Dict String Json) :
    (s.realtimeStart ws d msg settings).Bound := by
  unfold Server.realtimeStart
  simp only
  split
  · exact h.quiet (Quiet.reply _)
  · have hq : Quiet s (s.setCtx ws fun c => { c with realtime := true }) :=
      Quiet.setCtx _ rfl rfl Or.inl
    obtain ⟨hs, ha'⟩ := (h.quiet hq).register (ha.quiet hq)
    have hws : ((s.setCtx ws fun c => { c with realtime := true }).register ws d).deviceWs d =
        some ws := by
      rw [deviceWs_register, if_pos rfl]
    split
    · exact hs.quiet (Quiet.reply _)
    · split
      · refine hs.quiet (Quiet.trans ?_ (Quiet.reply _))
        refine Quiet.trans ?_ (Quiet.setState .listening)
        exact Quiet.setCtx _ rfl rfl fun _ => Or.inr (Able.principal hs ha')
      · split
        · exact hs.quiet (Quiet.trans (Quiet.setCtx _ rfl rfl Or.inl) (Quiet.reply _))
        · have hq' : Quiet ((s.setCtx ws fun c => { c with realtime := true }).register ws d)
              (((s.setCtx ws fun c => { c with realtime := true }).register ws d).setCtx ws
                fun c => { c with startup := none }) :=
            Quiet.setCtx _ rfl rfl Or.inl
          exact (hs.quiet hq').stopWake (Or.inr ⟨by decide, (hq'.ws d).trans hws, by simp⟩)
            fun s' _ hs' => hs'.proceed fun he => by cases he

lemma Bound.mediaReady (h : s.Bound) (hp : (s.ctx ws).principal ≠ none) (msg : Dict String Json) :
    (s.mediaReady ws msg).Bound := by
  unfold Server.mediaReady
  split
  · split
    · exact h.quiet (Quiet.setCtx _ rfl rfl fun _ => Or.inr hp)
    · exact h
  · exact h

lemma Quiet.dispatchPrompt (text : Text) : Quiet s (s.dispatchPrompt d text) := by
  unfold Server.dispatchPrompt
  split
  · split
    · exact (Quiet.setState .processing).trans (Quiet.startTurn true _)
    · exact Quiet.refl s
  · exact Quiet.refl s

lemma Bound.dispatch (h : s.Bound) (ha : s.Able ws d) (type : String) (msg : Dict String Json)
    (hws : binds type = true ∨ s.deviceWs d = some ws) :
    (s.dispatch ws d type msg settings).Bound := by
  have hstop : binds type = false → (s.realtimeStop ws d .message .nothing id).Bound := by
    intro hb
    have hws : s.deviceWs d = some ws := hws.resolve_left (by simp [hb])
    exact h.realtimeStop (by decide) hws (by simp) fun s' _ hs' => hs'
  unfold Server.dispatch
  split
  · exact h.hello ha
  split
  · split
    · exact h
    · exact h.voiceStart ha
  split
  · split
    · exact h
    · exact h.quiet Quiet.voiceEnd
  split
  · next ht =>
    split
    · exact hstop (by rw [ht]; rfl)
    · exact h.quiet Quiet.voiceAbort
  split
  · exact h.realtimeStart ha msg
  split
  · exact h.mediaReady (Able.principal h ha) msg
  split
  · next ht => exact hstop (by rw [ht]; rfl)
  split
  · refine h.suspend ?_
    show Kind.task ≠ .teardown
    decide
  · exact h

/-- A socket is bound by its first message. -/
lemma Bound.bind (h : s.Bound) (hp : (s.ctx ws).principal = none) {p : Option Principal}
    (hp' : p ≠ none) :
    (s.setCtx ws fun c => { c with principal := p, deviceId := some d }).Bound ∧
      (s.setCtx ws fun c => { c with principal := p, deviceId := some d }).Able ws d := by
  have hsup : ws ∉ s.superseded := fun hws => h.known ws hws hp
  refine ⟨⟨fun d' ws' hws' => ?_, fun ws' hws' => ?_, fun ws' hd => ?_, fun ws' hm => ?_, h.conts⟩,
    hsup, ?_⟩
  · obtain ⟨h1, h2⟩ := h.latest d' ws' hws'
    refine ⟨h1, ?_⟩
    rw [ctx_setCtx_eq, if_neg]
    · exact h2
    · rintro rfl
      exact h.paired ws (by rw [h2]; simp) hp
  · rw [ctx_setCtx_eq, if_neg]
    · exact h.known ws' hws'
    · rintro rfl
      exact hsup hws'
  · rw [ctx_setCtx_eq] at hd ⊢
    split
    · exact hp'
    · next hne =>
      rw [if_neg hne] at hd
      exact h.paired ws' hd
  · rw [ctx_setCtx_eq] at hm ⊢
    split
    · exact hp'
    · next hne =>
      rw [if_neg hne] at hm
      exact h.media ws' hm
  · rw [ctx_setCtx_eq, if_pos rfl]

/-- What the authorization of a message establishes. -/
lemma authorized_spec {type : String} {msg : Dict String Json} {authenticated : Option Principal}
    (ha : s.authorized ws type msg authenticated = true)
    (hd : (s.claimed ws msg authenticated).2 = some d) :
    (s.claimed ws msg authenticated).1 ≠ none ∧
      ((s.ctx ws).principal ≠ none →
        s.current (s.ctx ws).principal = true ∧ ∃ d', (s.ctx ws).deviceId = some d' ∧
          s.deviceWs d' = some ws ∧ d' = d) := by
  simp only [authorized, Bool.and_eq_true, Bool.or_eq_true, decide_eq_true_eq] at ha
  obtain ⟨⟨⟨⟨hcurrent, -⟩, hprincipal⟩, hdevice⟩, hlive⟩ := ha
  have hsome : (s.claimed ws msg authenticated).1 ≠ none := by
    intro hn
    rw [hn] at hcurrent
    cases hcurrent
  refine ⟨hsome, fun hp => ⟨?_, ?_⟩⟩
  · rw [← hprincipal.resolve_left hp]
    exact hcurrent
  · obtain ⟨d', hd', hws⟩ := Option.any_eq_true _ _ |>.mp (hlive.resolve_left hp)
    refine ⟨d', hd', by simpa using hws, ?_⟩
    have he := hdevice.resolve_left (by rw [hd']; simp)
    rw [hd, hd'] at he
    exact (Option.some.inj he).symm

lemma Bound.handleText (h : s.Bound) (type : String) (msg : Dict String Json)
    (authenticated : Option Principal) :
    (s.handleText ws type msg authenticated settings).Bound := by
  have hdeny : ∀ b, (s.deny ws b).Bound := fun b => h.quiet ((Quiet.reply _).trans Quiet.close)
  unfold Server.handleText
  simp only
  split
  · exact hdeny _
  · next ha =>
    rw [Bool.not_eq_true', Bool.not_eq_false] at ha
    split
    · exact hdeny _
    · next hb =>
      split
      · exact h
      · next d hd =>
        obtain ⟨hsome, hauth⟩ := authorized_spec ha hd
        by_cases hp : (s.ctx ws).principal = none
        · rw [if_pos hp]
          have hbinds : binds type = true := by
            by_contra hn
            exact hb ⟨hp, by simpa using hn⟩
          obtain ⟨hs, hable⟩ := h.bind (d := d) hp hsome
          have hmedia : (s.ctx ws).realtimeMedia = false := by
            by_contra hm
            exact h.media ws (by simpa using hm) hp
          have hstale : Server.staleMedia (s.setCtx ws fun c => { c with
              principal := (s.claimed ws msg authenticated).1, deviceId := some d }) ws d =
              false := by
            unfold Server.staleMedia
            rw [ctx_setCtx_eq, if_pos rfl]
            simp [hmedia]
          rw [hstale, Bool.false_and, if_neg (by simp)]
          exact hs.dispatch hable type msg (Or.inl hbinds)
        · rw [if_neg hp]
          obtain ⟨-, d', hd', hws, rfl⟩ := hauth hp
          split
          · refine h.realtimeStop (by decide) hws ?_ fun s' hq hs' =>
              hs'.proceed fun _ => (h.able hws).quiet hq
            split <;> simp
          · exact h.dispatch (h.able hws) type msg (Or.inr hws)

lemma Bound.disconnect (h : s.Bound) : (s.disconnect ws settings).Bound := by
  have hq : Quiet s (s.close ws) := Quiet.close
  unfold Server.disconnect
  simp only
  split
  · exact h.quiet hq
  · next d _ =>
    have hq' : Quiet s ((s.close ws).abortActiveTurn d) := hq.trans Quiet.abort
    split
    · split
      · exact (h.quiet hq').stopWake (Or.inl ⟨rfl, rfl⟩) fun s' _ hs' =>
          hs'.proceed fun he => by cases he
      · exact (h.quiet hq').proceed fun he => by cases he
    · exact h.quiet hq

lemma Bound.closeRevoked (h : s.Bound) : (s.closeRevoked ws).Bound := by
  have hq : Quiet s (s.close ws) := Quiet.close
  unfold Server.closeRevoked
  split
  · next _ d _ _ =>
    split
    · simp only
      split
      · exact (h.quiet (hq.trans (Quiet.abort (d := d)))).unregister
      · exact h.quiet hq
    · exact h
  · exact h

lemma Bound.startupFails (h : s.Bound) (key : ℕ) (code : String) :
    (s.startupFails key code).Bound := by
  unfold Server.startupFails
  split
  · next startup _ =>
    split
    · exact h
    · have hs : Bound { s with manager := { s.manager with
          startupTable := s.manager.startupTable.set key { startup with closed := true } } } :=
        h.quiet (Quiet.manager _)
      refine hs.suspend ?_
      show Kind.task ≠ .teardown
      decide
  · exact h

lemma Bound.resume {c : Suspended} (h : s.Bound) (hg : s.Attended c settings)
    (hc : Formed c) : (s.resume c settings).Bound := by
  unfold Formed at hc
  unfold Server.resume
  split
  · next captured next hcont =>
    have hq : Quiet s (Server.wakeStopped { s with
        manager := s.manager.forget c.deviceId captured.session } c.deviceId captured) :=
      (Quiet.manager _).trans (Quiet.wakeStopped captured)
    refine (h.quiet hq).proceed fun he => ?_
    rw [hcont] at hc
    rcases hc with ⟨-, hn⟩ | ⟨hkind, -, -⟩
    · rw [hn] at he
      cases he
    · unfold Attended at hg
      rw [hcont] at hg
      exact (h.able (speaks_ws (hg.2 (Or.inl he)))).quiet hq
  · next key code hcont =>
    split
    · refine (h.quiet (Quiet.reply _)).suspend ?_
      show Kind.task ≠ .teardown
      decide
    · exact h
  · next key hcont =>
    split
    · next hstands =>
      unfold Attended at hg
      rw [hcont] at hg
      exact h.realtimeStop (by decide) (speaks_ws (hg hstands)) (by simp) fun s' _ hs' => hs'
    · exact h
  · split
    · exact h.quiet (Quiet.dispatchPrompt _)
    · exact h

end Handlers

/-! ### Steps -/

lemma Inert.refl (s : Server) : Inert s s := ⟨rfl, rfl, rfl, rfl, rfl, rfl⟩

lemma Bound.silent (h : s.Bound) (hstale : s.stale ws = true) : ¬s.speaks ws d = true := by
  intro hs
  rw [h.not_stale hs] at hstale
  cases hstale

section Turns

variable {event : ℕ} {job : Job}

lemma Inert.trans (h : Inert s s') (h' : Inert s' s'') : Inert s s'' :=
  ⟨h'.registry.trans h.registry, h'.wakes.trans h.wakes, h'.deviceWakes.trans h.deviceWakes,
    h'.startups.trans h.startups, h'.startupTable.trans h.startupTable,
    h'.liveDevices.trans h.liveDevices⟩

/-- Neither the registry nor the manager has been touched. -/
lemma Inert.of_same (hr : s'.registry = s.registry) (hm : s'.manager = s.manager) : Inert s s' :=
  ⟨hr, by rw [hm], by rw [hm], by rw [hm], by rw [hm], by rw [hm]⟩

end Turns

section Sample

end Sample

end Server

end Vauxr.Voice
