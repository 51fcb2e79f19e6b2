import Vauxr.Voice.Machine

/-!
At most one turn of a device is under way.

The abort event in the entry of a device stands for the turn under way. Registering, aborting and
disconnecting set it before they drop it; `_voice_end` and `_dispatch_prompt` overwrite it without
a look. So exclusion holds as long as no turn begins on an entry that holds an event.
-/

namespace Vauxr.Voice

open Vauxr.Lib

namespace Server

/-- The turn is unfinished, and its abort event is not set. -/
def Live (s : Server) (event : ℕ) (job : Job) : Prop :=
  s.jobs.get? event = some job ∧ job.finished = false ∧ event ∉ s.registry.set

/-- At most one turn of a device is live. -/
def Exclusive (s : Server) : Prop :=
  ∀ event event' job job', s.Live event job → s.Live event' job' →
    job.deviceId = job'.deviceId → event = event'

/-- The device has an entry, and the entry holds no abort event. -/
def Vacant (s : Server) (deviceId : String) : Prop :=
  ∃ entry, s.registry.get? deviceId = some entry ∧ entry.abortEvent = none

/-- `voice.end` is accepted: the message is authorized, its context listens and is in no realtime
session. -/
def acceptsVoiceEnd (s : Server) (ws : ℕ) (deviceId : String) (msg : Dict String Json)
    (authenticated : Option Principal) : Bool :=
  !s.busy ws && s.authorized ws "voice.end" msg authenticated &&
    (s.ctx ws).principal ≠ none && !(s.ctx ws).realtime && !s.staleMedia ws deviceId &&
    (s.ctx ws).state = .listening

/-- The device on which the action starts a turn, if it starts one. -/
def startsOn (s : Server) : Action → Option String
  | .message ws msg authenticated _ =>
    if (msg.get? "type").bind Json.str? = some "voice.end" then
      (s.claimed ws msg authenticated).2.filter fun deviceId =>
        s.acceptsVoiceEnd ws deviceId msg authenticated
    else none
  | .resume i settings =>
    match s.suspended[i]? with
    | some c =>
      match c.cont with
      | .stopWake _ .voiceEnd => if (s.ctx c.ws).state = .listening then some c.deviceId else none
      | .button =>
        if settings.button.any fun text =>
            (s.registry.get? c.deviceId).any fun entry => takesPrompt entry text then
          some c.deviceId
        else none
      | _ => none
    | none => none
  | _ => none

/-- Turns begin on vacant entries only. -/
def StartsVacant (s : Server) (a : Action) : Prop :=
  ∀ deviceId, s.startsOn a = some deviceId → s.Vacant deviceId

/-- Numbers are given out once, and a live turn holds the entry of its device. -/
structure Owned (s : Server) : Prop where
  jobs : ∀ event job, s.jobs.get? event = some job → event < s.registry.next
  set : ∀ event ∈ s.registry.set, event < s.registry.next
  held : ∀ d entry event, s.registry.get? d = some entry → entry.abortEvent = some event →
    event < s.registry.next
  live : ∀ event job, s.Live event job → s.owns event job = true

lemma owns_iff {s : Server} {event : ℕ} {job : Job} : s.owns event job = true ↔
    ∃ entry, s.registry.get? job.deviceId = some entry ∧ some entry.key = job.entry ∧
      entry.abortEvent = some event := by
  simp [owns, Option.any_eq_true]

lemma Owned.exclusive {s : Server} (h : s.Owned) : s.Exclusive := by
  intro event event' job job' hl hl' hd
  obtain ⟨entry, he, -, ha⟩ := owns_iff.mp (h.live event job hl)
  obtain ⟨entry', he', -, ha'⟩ := owns_iff.mp (h.live event' job' hl')
  rw [hd, he'] at he
  obtain rfl := Option.some.inj he
  exact Option.some.inj (ha.symm.trans ha')

/-! ### Moves of the registry -/

variable {s s' : Server} {d : String}

lemma Owned.congr (h : s.Owned) (hr : s'.registry = s.registry) (hj : s'.jobs = s.jobs) :
    s'.Owned := by
  obtain ⟨h1, h2, h3, h4⟩ := h
  refine ⟨hr ▸ hj ▸ h1, hr ▸ h2, hr ▸ h3, fun event job hl => ?_⟩
  have hl' : s.Live event job := by
    unfold Live at hl ⊢
    rwa [hr, hj] at hl
  have ho := h4 event job hl'
  unfold owns at ho ⊢
  rwa [hr]

/-- A move of the registry: what is set stays set, and an event in an entry stays there until it
is set. -/
structure Moves (r r' : Registry) : Prop where
  next : r.next ≤ r'.next
  mono : ∀ event ∈ r.set, event ∈ r'.set
  set : ∀ event ∈ r'.set, event ∈ r.set ∨
    ∃ d entry, r.get? d = some entry ∧ entry.abortEvent = some event
  held : ∀ d entry' event, r'.get? d = some entry' → entry'.abortEvent = some event →
    ∃ entry, r.get? d = some entry ∧ entry.abortEvent = some event
  keep : ∀ event d entry, r.get? d = some entry → entry.abortEvent = some event →
    event ∉ r'.set →
    ∃ entry', r'.get? d = some entry' ∧ entry'.key = entry.key ∧ entry'.abortEvent = some event

lemma Owned.moves (h : s.Owned) (hj : s'.jobs = s.jobs) (hm : Moves s.registry s'.registry) :
    s'.Owned := by
  refine ⟨fun event job hjob => ?_, fun event he => ?_, fun d entry event he ha => ?_,
    fun event job hl => ?_⟩
  · rw [hj] at hjob
    exact (h.jobs event job hjob).trans_le hm.next
  · rcases hm.set event he with he | ⟨d, entry, he, ha⟩
    · exact (h.set event he).trans_le hm.next
    · exact (h.held d entry event he ha).trans_le hm.next
  · obtain ⟨entry', he', ha'⟩ := hm.held d entry event he ha
    exact (h.held d entry' event he' ha').trans_le hm.next
  · obtain ⟨hjob, hf, hns⟩ := hl
    rw [hj] at hjob
    have hns' : event ∉ s.registry.set := fun hs => hns (hm.mono event hs)
    obtain ⟨entry, he, hk, ha⟩ := owns_iff.mp (h.live event job ⟨hjob, hf, hns'⟩)
    obtain ⟨entry', he', hk', ha'⟩ := hm.keep event job.deviceId entry he ha hns
    exact owns_iff.mpr ⟨entry', he', hk' ▸ hk, ha'⟩

variable {r : Registry}

lemma moves_setState (state : DeviceState) : Moves r (r.setState d state) := by
  have hget : ∀ d', (r.setState d state).get? d' =
      if d = d' then (r.get? d).map fun entry => { entry with state } else r.get? d' :=
    fun d' => Registry.get?_modify _
  refine ⟨by simp, by simp, fun event hs => Or.inl (by simpa using hs),
    fun d' entry' event he ha => ?_, fun event d' entry he ha _ => ?_⟩
  · rw [hget] at he
    split at he
    · next hd =>
      subst hd
      obtain ⟨entry, hr, rfl⟩ := Option.map_eq_some_iff.mp he
      exact ⟨entry, hr, ha⟩
    · exact ⟨entry', he, ha⟩
  · rw [hget]
    split
    · next hd =>
      subst hd
      rw [he]
      exact ⟨_, rfl, rfl, ha⟩
    · exact ⟨entry, he, rfl, ha⟩

lemma moves_abortActiveTurn : Moves r (r.abortActiveTurn d) := by
  refine ⟨by simp, fun event hs => ?_, fun event hs => ?_, fun d' entry' event he ha => ?_,
    fun event d' entry he ha hns => ?_⟩
  · exact Registry.mem_set_abortActiveTurn.mpr (Or.inl hs)
  · rcases Registry.mem_set_abortActiveTurn.mp hs with hs | ⟨entry, he, ha⟩
    · exact Or.inl hs
    · exact Or.inr ⟨d, entry, he, ha⟩
  · rw [Registry.get?_abortActiveTurn] at he
    split at he
    · obtain ⟨entry, -, rfl⟩ := Option.map_eq_some_iff.mp he
      cases ha
    · exact ⟨entry', he, ha⟩
  · rw [Registry.get?_abortActiveTurn]
    split
    · next hd =>
      subst hd
      exact absurd (Registry.mem_set_abortActiveTurn.mpr (Or.inr ⟨entry, he, ha⟩)) hns
    · exact ⟨entry, he, rfl, ha⟩

lemma moves_register (ws : ℕ) : Moves r (r.register d ws) := by
  have hm := moves_abortActiveTurn (r := r) (d := d)
  refine ⟨?_, hm.mono, hm.set, fun d' entry' event he ha => ?_,
    fun event d' entry he ha hns => ?_⟩
  · have hn : (r.register d ws).next = r.next + 1 := by simp [Registry.register]
    omega
  · rw [Registry.get?_register] at he
    split at he
    · cases he
      cases ha
    · exact ⟨entry', he, ha⟩
  · rw [Registry.get?_register]
    split
    · next hd =>
      subst hd
      exact absurd (Registry.mem_set_abortActiveTurn.mpr (Or.inr ⟨entry, he, ha⟩)) hns
    · exact ⟨entry, he, rfl, ha⟩

lemma moves_unregister (ws : ℕ) : Moves r (r.unregister d ws) := by
  have hm := moves_abortActiveTurn (r := r) (d := d)
  have hself : Moves r r :=
    ⟨le_rfl, fun _ h => h, fun _ h => Or.inl h, fun _ entry _ he ha => ⟨entry, he, ha⟩,
      fun _ _ entry he ha _ => ⟨entry, he, rfl, ha⟩⟩
  unfold Registry.unregister
  split
  · next entry₀ h₀ =>
    split
    · have hget : ∀ d', ((r.abortActiveTurn d).devices.erase d).get? d' =
          if d = d' then none else r.get? d' := by
        intro d'
        have h := @Registry.get?_abortActiveTurn r d d'
        by_cases hd : d = d'
        · simp [hd]
        · have hd' : ¬d' = d := fun h' => hd h'.symm
          rw [if_neg hd] at h ⊢
          simpa [hd, hd', Registry.get?] using h
      refine ⟨hm.next, hm.mono, hm.set, fun d' entry' event he ha => ?_,
        fun event d' entry he ha hns => ?_⟩
      · rw [Registry.get?, hget] at he
        split at he
        · cases he
        · exact ⟨entry', he, ha⟩
      · rw [Registry.get?, hget]
        split
        · next hd =>
          subst hd
          exact absurd (Registry.mem_set_abortActiveTurn.mpr (Or.inr ⟨entry, he, ha⟩)) hns
        · exact ⟨entry, he, rfl, ha⟩
    · exact hself
  · exact hself

lemma moves_fresh : Moves r r.fresh.2 :=
  ⟨Nat.le_succ _, fun _ h => h, fun _ h => Or.inl h, fun _ entry _ he ha => ⟨entry, he, ha⟩,
    fun _ _ entry he ha _ => ⟨entry, he, rfl, ha⟩⟩

/-! ### Turns -/

lemma get?_setAbortEvent {event : Option ℕ} {d' : String} :
    (r.setAbortEvent d event).get? d' =
      if d = d' then (r.get? d).map fun entry => { entry with abortEvent := event }
      else r.get? d' :=
  Registry.get?_modify _

lemma Vacant.setState (h : s.Vacant d) (state : DeviceState) : (s.setState d state).Vacant d := by
  obtain ⟨entry, he, ha⟩ := h
  refine ⟨{ entry with state }, ?_, ha⟩
  have hget : (s.registry.setState d state).get? d =
      (s.registry.get? d).map fun entry => { entry with state } := by
    rw [Registry.setState, Registry.get?_modify, if_pos rfl]
  simp only [Server.setState, hget, he, Option.map_some]

/-- **A turn on a vacant entry.** -/
lemma Owned.startTurn (h : s.Owned) (hv : s.Vacant d) (ws : ℕ) (prompt : Bool) (turn : Turn) :
    (s.startTurn ws d prompt turn).Owned := by
  obtain ⟨entry, he, hnone⟩ := hv
  set event := s.registry.next with hevent
  have hget : ∀ d', (s.startTurn ws d prompt turn).registry.get? d' =
      if d = d' then some { entry with abortEvent := some event } else s.registry.get? d' := by
    intro d'
    have hg := @get?_setAbortEvent d s.registry.fresh.2 (some event) d'
    have hd : s.registry.fresh.2.get? d = some entry := he
    rw [hd] at hg
    exact hg
  have hset : (s.startTurn ws d prompt turn).registry.set = s.registry.set :=
    Registry.set_modify _
  have hnext : (s.startTurn ws d prompt turn).registry.next = event + 1 :=
    Registry.next_modify _
  refine ⟨fun event' job hjob => ?_, fun event' hs => ?_, fun d' entry' event' he' ha' => ?_,
    fun event' job hl => ?_⟩
  · rw [hnext]
    simp only [Server.startTurn, Dict.get?_set] at hjob
    split at hjob
    · next heq =>
      have heq : event = event' := heq
      omega
    · have := h.jobs event' job hjob
      omega
  · rw [hset] at hs
    have := h.set event' hs
    omega
  · rw [hget] at he'
    split at he'
    · cases he'
      have heq : event = event' := Option.some.inj ha'
      omega
    · have := h.held d' entry' event' he' ha'
      omega
  · obtain ⟨hjob, hf, hns⟩ := hl
    rw [hset] at hns
    simp only [Server.startTurn, Dict.get?_set] at hjob
    split at hjob
    · next heq =>
      have heq : event = event' := heq
      cases hjob
      refine owns_iff.mpr ⟨_, (hget d).trans (if_pos rfl), ?_, congrArg some heq⟩
      have hd : s.registry.fresh.2.get? d = some entry := he
      simp [hd]
    · obtain ⟨entry', he', hk, ha⟩ := owns_iff.mp (h.live event' job ⟨hjob, hf, hns⟩)
      refine owns_iff.mpr ⟨entry', ?_, hk, ha⟩
      rw [hget, if_neg]
      · exact he'
      · rintro rfl
        rw [he] at he'
        cases he'
        rw [hnone] at ha
        cases ha

lemma Owned.setJob (h : s.Owned) {event : ℕ} {job job' : Job}
    (hjob : s.jobs.get? event = some job) (hd : job'.deviceId = job.deviceId)
    (he : job'.entry = job.entry) (hf : job'.finished = false → job.finished = false) :
    (s.setJob event job').Owned := by
  refine ⟨fun event' job'' hj => ?_, h.set, h.held, fun event' job'' hl => ?_⟩
  · simp only [Server.setJob, Dict.get?_set] at hj
    split at hj
    · next heq => exact heq ▸ h.jobs event job hjob
    · exact h.jobs event' job'' hj
  · obtain ⟨hj, hfin, hns⟩ := hl
    simp only [Server.setJob, Dict.get?_set] at hj
    split at hj
    · next heq =>
      subst heq
      cases hj
      have ho := h.live event job ⟨hjob, hf hfin, hns⟩
      obtain ⟨entry, hent, hk, ha⟩ := owns_iff.mp ho
      exact owns_iff.mpr ⟨entry, hd ▸ hent, he ▸ hk, ha⟩
    · exact h.live event' job'' ⟨hj, hfin, hns⟩

/-- The event of a finished turn leaves its entry. -/
lemma Owned.release (h : s.Owned) {event : ℕ} {job : Job} (ho : s.owns event job = true)
    (hfin : ∀ job', s.jobs.get? event = some job' → job'.finished = true) :
    Owned { s with registry := s.registry.setAbortEvent job.deviceId none } := by
  have hset : (s.registry.setAbortEvent job.deviceId none).set = s.registry.set :=
    Registry.set_modify _
  have hnext : (s.registry.setAbortEvent job.deviceId none).next = s.registry.next :=
    Registry.next_modify _
  refine ⟨fun event' job' hj => hnext ▸ h.jobs event' job' hj, ?_, ?_, ?_⟩
  · intro event' hs
    rw [hset] at hs
    rw [hnext]
    exact h.set event' hs
  · intro d' entry' event' he' ha'
    rw [hnext]
    rw [get?_setAbortEvent] at he'
    split at he'
    · obtain ⟨entry, -, rfl⟩ := Option.map_eq_some_iff.mp he'
      cases ha'
    · exact h.held d' entry' event' he' ha'
  · rintro event' job' ⟨hj, hf, hns⟩
    rw [hset] at hns
    obtain ⟨entry', he', hk', ha'⟩ := owns_iff.mp (h.live event' job' ⟨hj, hf, hns⟩)
    refine owns_iff.mpr ⟨entry', ?_, hk', ha'⟩
    rw [get?_setAbortEvent, if_neg]
    · exact he'
    · intro hd
      obtain ⟨entry, he, -, ha⟩ := owns_iff.mp ho
      rw [hd, he'] at he
      cases he
      obtain rfl : event' = event := Option.some.inj (ha'.symm.trans ha)
      rw [hfin job' hj] at hf
      cases hf

lemma owns_setState (event : ℕ) (job : Job) (state : DeviceState) :
    (s.setState d state).owns event job = s.owns event job := by
  have hget : (s.setState d state).registry.get? job.deviceId =
      if d = job.deviceId then (s.registry.get? d).map fun entry => { entry with state }
      else s.registry.get? job.deviceId := Registry.get?_modify _
  unfold owns
  rw [hget]
  split
  · next hd =>
    subst hd
    cases s.registry.get? job.deviceId <;> rfl
  · rfl

lemma Owned.setState (h : s.Owned) (state : DeviceState) : (s.setState d state).Owned :=
  h.moves rfl (moves_setState state)

lemma Owned.writeState (h : s.Owned) (event : ℕ) (job : Job) (state : DeviceState) :
    (s.writeState event job state).Owned := by
  have hs : Owned { s with resets := ⟨event, s.owns event job⟩ :: s.resets } := h.congr rfl rfl
  exact hs.setState state

/-- The job of an event, up to what its turn does. -/
def Holds (s : Server) (event : ℕ) (job : Job) : Prop :=
  ∃ job', s.jobs.get? event = some job' ∧ job'.deviceId = job.deviceId ∧ job'.entry = job.entry ∧
    job'.finished = job.finished

variable {event : ℕ} {job : Job}

lemma Owned.replace (h : s.Owned) (hh : s.Holds event job) {job' : Job}
    (hd : job'.deviceId = job.deviceId) (he : job'.entry = job.entry)
    (hf : job'.finished = false → job.finished = false) : (s.setJob event job').Owned := by
  obtain ⟨job₀, hjob, hd₀, he₀, hf₀⟩ := hh
  exact h.setJob hjob (hd.trans hd₀.symm) (he.trans he₀.symm) fun hn => hf₀.trans (hf hn)

lemma holds_setJob {job' : Job} (hd : job'.deviceId = job.deviceId) (he : job'.entry = job.entry)
    (hf : job'.finished = job.finished) : (s.setJob event job').Holds event job :=
  ⟨job', by simp [Server.setJob], hd, he, hf⟩

lemma Owned.finish (h : s.Owned) (hh : s.Holds event job) : (s.finish event job).Owned := by
  have hs : (s.setJob event { job with finished := true }).Owned :=
    h.replace hh rfl rfl (fun hf => by cases hf)
  set s₁ := s.setJob event { job with finished := true } with hs₁
  have hfin : ∀ job', s₁.jobs.get? event = some job' → job'.finished = true := by
    intro job' hj
    have : some { job with finished := true } = some job' := by
      simpa [hs₁, Server.setJob] using hj
    cases this
    rfl
  simp only [Server.finish, ← hs₁]
  split
  · next ho =>
    have howner : ∀ state, (s₁.writeState event job state).owns event job = true := fun state =>
      (owns_setState event job state).trans ho
    split
    · split
      · exact Owned.release (hs.writeState event job .idle) (howner .idle) hfin
      · exact Owned.release hs ho hfin
    · have hctx : (s₁.setCtx job.ws fun c => { c with state := .idle }).Owned := hs.congr rfl rfl
      exact Owned.release (hctx.writeState event job .idle) (howner .idle) hfin
  · exact hs

lemma completeEnding_spec (h : s.Owned) (world : TurnWorld) :
    (s.completeEnding event job world).Owned ∧ (s.completeEnding event job world).jobs = s.jobs := by
  unfold completeEnding
  split
  · split
    · exact ⟨h.writeState _ _ _, rfl⟩
    · exact ⟨h, rfl⟩
  · split
    · exact ⟨h.writeState _ _ _, rfl⟩
    · exact ⟨h, rfl⟩
  · exact ⟨h, rfl⟩

lemma promptAudioEnd_spec (h : s.Owned) (hh : s.Holds event job) (followUp : Bool)
    (world : TurnWorld) : (s.promptAudioEnd event job followUp world).Owned ∧
      (s.promptAudioEnd event job followUp world).Holds event job := by
  have hset : ∀ ending, (s.setJob event { job with ending }).Owned ∧
      (s.setJob event { job with ending }).Holds event job := fun ending =>
    ⟨h.replace hh rfl rfl id, holds_setJob rfl rfl rfl⟩
  unfold promptAudioEnd
  split
  · split
    · simp only
      split
      · exact ⟨(hset _).1.congr rfl rfl, (hset _).2⟩
      · exact hset _
    · split
      · exact ⟨h, hh⟩
      · exact ⟨(hset _).1.congr rfl rfl, (hset _).2⟩
  · exact ⟨h, hh⟩

lemma send_spec (h : s.Owned) (hh : s.Holds event job) (frame : Frame) (world : TurnWorld) :
    (s.send event job frame world).Owned ∧ (s.send event job frame world).Holds event job := by
  have hemit : ∀ ws frame, (s.emit event ws frame).Owned ∧ (s.emit event ws frame).Holds event job :=
    fun _ _ => ⟨h.congr rfl rfl, hh⟩
  unfold send
  split
  · split
    · exact promptAudioEnd_spec h hh _ world
    · split
      · exact ⟨h, hh⟩
      · exact hemit _ _
  · split
    · exact ⟨h, hh⟩
    · exact hemit _ _

lemma Owned.stepTurn (h : s.Owned) (hjob : s.jobs.get? event = some job) (input : TurnInput)
    (world : TurnWorld) : (s.stepTurn event job input world).Owned := by
  unfold Server.stepTurn
  have h₁ : ∀ b : Bool, (if b then s.completeEnding event job world else s).Owned ∧
      (if b then s.completeEnding event job world else s).jobs = s.jobs := by
    intro b
    cases b
    · exact ⟨h, rfl⟩
    · exact completeEnding_spec h world
  obtain ⟨ho, hj⟩ := h₁ (endsNow job input)
  generalize (if endsNow job input then s.completeEnding event job world else s) = s₁ at ho hj
  simp only
  generalize job.turn.step (s₁.turnEnv event world) input = r
  obtain ⟨turn, frame⟩ := r
  have hh : s₁.Holds event { job with turn } := ⟨job, hj ▸ hjob, rfl, rfl, rfl⟩
  have ho₂ : (s₁.setJob event { job with turn }).Owned := ho.replace hh rfl rfl id
  have hh₂ : (s₁.setJob event { job with turn }).Holds event { job with turn } :=
    holds_setJob rfl rfl rfl
  have h₃ : ∀ s₃ : Server, s₃.Owned → s₃.Holds event { job with turn } →
      (if turn.main = .done ∧ job.finished = false then
        s₃.finish event ((s₃.jobs.get? event).getD { job with turn }) else s₃).Owned := by
    intro s₃ ho₃ hh₃
    split
    · obtain ⟨job', hj', -⟩ := hh₃
      rw [hj']
      exact ho₃.finish ⟨job', hj', rfl, rfl, rfl⟩
    · exact ho₃
  cases frame with
  | none => exact h₃ _ ho₂ hh₂
  | some frame =>
    obtain ⟨ho₃, hh₃⟩ := send_spec ho₂ hh₂ frame world
    exact h₃ _ ho₃ hh₃

lemma Owned.rescue (h : s.Owned) (hjob : s.jobs.get? event = some job) :
    (s.rescue event job).Owned := by
  have hh : s.Holds event job := ⟨job, hjob, rfl, rfl, rfl⟩
  unfold Server.rescue
  split
  · split
    · exact h.finish hh
    · have hs : (s.setJob event { job with rescued := true }).Owned := h.replace hh rfl rfl id
      simp only
      split
      · exact hs
      · exact hs.congr rfl rfl
  · exact h

/-! ### Handlers -/

variable {ws : ℕ} {kind : Kind} {settings : Settings}

lemma Owned.abort (h : s.Owned) : (s.abortActiveTurn d).Owned :=
  h.moves rfl moves_abortActiveTurn

lemma Owned.register (h : s.Owned) : (s.register ws d).Owned := h.moves rfl (moves_register ws)

lemma Owned.unregister (h : s.Owned) :
    Owned { s with registry := s.registry.unregister d ws } := h.moves rfl (moves_unregister ws)

lemma Owned.reply (h : s.Owned) (r : Reply) : (s.reply ws r).Owned := h.congr rfl rfl

lemma Owned.setCtx (h : s.Owned) (f : Ctx → Ctx) : (s.setCtx ws f).Owned := h.congr rfl rfl

lemma ctx_setCtx (f : Ctx → Ctx) : (s.setCtx ws f).ctx ws = f (s.ctx ws) := by
  simp [Server.setCtx, Server.ctx]

lemma ctx_congr (h : s'.ctxs = s.ctxs) (ws : ℕ) : s'.ctx ws = s.ctx ws := by
  unfold Server.ctx
  rw [h]

lemma wakeStopped_spec (h : s.Owned) (captured : Captured) :
    (s.wakeStopped d captured).Owned ∧ (s.wakeStopped d captured).ctxs = s.ctxs := by
  unfold wakeStopped
  split
  · have hs : Owned { s with manager := s.manager.retire d } := h.congr rfl rfl
    exact ⟨hs.setState .idle, rfl⟩
  · exact ⟨h, rfl⟩

lemma Owned.stopWake (h : s.Owned) (next : Next) {k : Server → Server}
    (hk : ∀ s', s'.ctxs = s.ctxs → s'.Owned → (k s').Owned) :
    (s.stopWake ws d kind next k).Owned := by
  have hs : Owned { s with manager := s.manager.closeStartup d } := h.congr rfl rfl
  unfold Server.stopWake
  simp only
  split
  · exact hs.congr rfl rfl
  · obtain ⟨ho, hc⟩ := wakeStopped_spec (d := d) hs
      ⟨s.manager.session? d, s.manager.wakes.get? d, s.deviceWs d⟩
    exact hk _ hc ho

lemma Owned.voiceAbort (h : s.Owned) : (s.voiceAbort ws d).Owned :=
  (h.abort.setState .idle).setCtx _

lemma Owned.realtimeStop (h : s.Owned) (next : Next) {k : Server → Server}
    (hk : ∀ s', (s'.ctx ws).state = .idle → s'.Owned → (k s').Owned) :
    (s.realtimeStop ws d kind next k).Owned := by
  have hs : (s.voiceAbort ws d).Owned := h.voiceAbort
  refine Owned.stopWake (hs.setCtx _) next fun s' hc ho => hk s' ?_ ho
  rw [ctx_congr hc, ctx_setCtx]
  exact congrArg Ctx.state (ctx_setCtx _)

lemma Owned.hello (h : s.Owned) : (s.hello ws d).Owned := h.register.reply _

lemma Owned.voiceStart (h : s.Owned) : (s.voiceStart ws d settings).Owned := by
  have hs : (s.abortActiveTurn d).Owned := h.abort
  unfold Server.voiceStart
  simp only
  split
  · exact ((hs.setCtx _).register.setState .listening).reply _
  · exact (hs.reply _).setCtx _

lemma Owned.voiceEnd (h : s.Owned) (hv : (s.ctx ws).state = .listening → s.Vacant d) :
    (s.voiceEnd ws d).Owned := by
  unfold Server.voiceEnd
  split
  · exact h.reply _
  · next hl =>
    rw [not_not] at hl
    have hs : (s.setCtx ws fun c => { c with state := .processing }).Owned := h.setCtx _
    have hvac : (s.setCtx ws fun c => { c with state := .processing }).Vacant d := hv hl
    exact (hs.setState .processing).startTurn (hvac.setState .processing) ws false _

lemma Owned.realtimeArm (h : s.Owned) (explicitLive persistedLive : Bool)
    (startupId : Option ℤ) :
    (s.realtimeArm ws d explicitLive persistedLive startupId).Owned := by
  unfold Server.realtimeArm
  split
  · exact h.congr rfl rfl
  · split
    · simp only
      refine Owned.reply (Owned.setState ?_ .listening) _
      exact h.congr rfl rfl
    · simp only
      split
      · exact (h.setCtx _).realtimeStop .startupRequired fun s' _ ho => ho.reply _
      · refine Owned.reply (Owned.setState ?_ .listening) _
        have hf : Owned { s with registry := s.registry.fresh.2.fresh.2 } :=
          Owned.moves (s := { s with registry := s.registry.fresh.2 })
            (h.moves rfl moves_fresh) rfl moves_fresh
        exact hf.congr rfl rfl

lemma Owned.proceed (h : s.Owned) (next : Next)
    (hv : next = .voiceEnd → (s.ctx ws).state = .listening → s.Vacant d) :
    (s.proceed ws d settings next).Owned := by
  cases next with
  | nothing => exact h
  | voiceStart => exact h.voiceStart
  | voiceEnd => exact h.voiceEnd (hv rfl)
  | realtimeStart live persisted startupId => exact h.realtimeArm live persisted startupId
  | startupRequired => exact h.reply _
  | unregister => exact h.unregister

lemma Owned.realtimeStart (h : s.Owned) (msg : Dict String Json) :
    (s.realtimeStart ws d msg settings).Owned := by
  unfold Server.realtimeStart
  simp only
  split
  · exact h.reply _
  · have hs : ((s.setCtx ws fun c => { c with realtime := true }).register ws d).Owned :=
      (h.setCtx _).register
    split
    · exact hs.reply _
    · split
      · exact ((hs.setCtx _).setState .listening).reply _
      · split
        · exact (hs.setCtx _).reply _
        · exact (hs.setCtx _).stopWake _ fun s' _ ho => ho.proceed _ fun he => by cases he

lemma Owned.mediaReady (h : s.Owned) (msg : Dict String Json) : (s.mediaReady ws msg).Owned := by
  unfold Server.mediaReady
  split
  · split
    · exact h.setCtx _
    · exact h
  · exact h

lemma Owned.dispatchPrompt (h : s.Owned) (text : Text)
    (hv : ∀ entry, s.registry.get? d = some entry → takesPrompt entry text = true →
      s.Vacant d) : (s.dispatchPrompt d text).Owned := by
  unfold Server.dispatchPrompt
  split
  · next entry he =>
    split
    · next ht =>
      exact (h.setState .processing).startTurn ((hv entry he ht).setState .processing) _ _ _
    · exact h
  · exact h

lemma Owned.dispatch (h : s.Owned) (type : String) (msg : Dict String Json)
    (hv : type = "voice.end" → (s.ctx ws).realtime = false → (s.ctx ws).state = .listening →
      s.Vacant d) : (s.dispatch ws d type msg settings).Owned := by
  unfold Server.dispatch
  split
  · exact h.hello
  split
  · split
    · exact h
    · exact h.voiceStart
  split
  · next ht =>
    split
    · exact h
    · next hr => exact h.voiceEnd (hv ht (by simpa using hr))
  split
  · split
    · exact h.realtimeStop _ fun s' _ ho => ho
    · exact h.voiceAbort
  split
  · exact h.realtimeStart msg
  split
  · exact h.mediaReady msg
  split
  · exact h.realtimeStop _ fun s' _ ho => ho
  split
  · exact h.congr rfl rfl
  · exact h

lemma Owned.handleText (h : s.Owned) (type : String) (msg : Dict String Json)
    (authenticated : Option Principal)
    (hv : type = "voice.end" → ∀ d, (s.claimed ws msg authenticated).2 = some d →
      s.authorized ws type msg authenticated = true → (s.ctx ws).principal ≠ none →
      s.staleMedia ws d = false → (s.ctx ws).realtime = false →
      (s.ctx ws).state = .listening → s.Vacant d) :
    (s.handleText ws type msg authenticated settings).Owned := by
  have hdeny : ∀ b, (s.deny ws b).Owned := fun b => h.congr rfl rfl
  unfold Server.handleText
  simp only
  split
  · exact hdeny _
  · next ha =>
    split
    · exact hdeny _
    · next hb =>
      split
      · exact h
      · next d hd =>
        by_cases hp : (s.ctx ws).principal = none
        · rw [if_pos hp]
          have hs : (s.setCtx ws fun c => { c with
              principal := (s.claimed ws msg authenticated).1, deviceId := some d }).Owned :=
            h.setCtx _
          have htype : type ≠ "voice.end" := by
            rintro rfl
            exact hb ⟨hp, by decide⟩
          split
          · exact hs.realtimeStop _ fun s' hidle ho => ho.proceed _ fun _ hl => by
              rw [hidle] at hl
              cases hl
          · exact hs.dispatch type msg fun ht => absurd ht htype
        · rw [if_neg hp]
          split
          · exact h.realtimeStop _ fun s' hidle ho => ho.proceed _ fun _ hl => by
              rw [hidle] at hl
              cases hl
          · next hs =>
            refine h.dispatch type msg fun ht hr hl => ?_
            have hstale : s.staleMedia ws d = false := by simpa [ht] using hs
            exact hv ht d hd (by simpa using ha) hp hstale hr hl

lemma Owned.disconnect (h : s.Owned) : (s.disconnect ws settings).Owned := by
  have hs : (s.close ws).Owned := h.congr rfl rfl
  unfold Server.disconnect
  simp only
  split
  · exact hs
  · split
    · split
      · exact hs.abort.stopWake _ fun s' _ ho => ho.proceed _ fun he => by cases he
      · exact hs.abort.proceed _ fun he => by cases he
    · exact hs

lemma Owned.closeRevoked (h : s.Owned) : (s.closeRevoked ws).Owned := by
  have hs : (s.close ws).Owned := h.congr rfl rfl
  unfold Server.closeRevoked
  split
  · split
    · simp only
      split
      · exact hs.abort.unregister
      · exact hs
    · exact h
  · exact h

lemma Owned.startupFails (h : s.Owned) (key : ℕ) (code : String) :
    (s.startupFails key code).Owned := by
  unfold Server.startupFails
  split
  · split
    · exact h
    · exact h.congr rfl rfl
  · exact h

lemma Vacant.wakeStopped (h : s.Vacant d) (captured : Captured) :
    (s.wakeStopped d captured).Vacant d := by
  unfold Server.wakeStopped
  split
  · have hs : Vacant { s with manager := s.manager.retire d } d := h
    exact hs.setState .idle
  · exact h

lemma Owned.resume {c : Suspended} (h : s.Owned)
    (hv : ∀ captured, c.cont = .stopWake captured .voiceEnd →
      (s.ctx c.ws).state = .listening → s.Vacant c.deviceId)
    (hp : c.cont = .button → ∀ text ∈ settings.button, ∀ entry,
      s.registry.get? c.deviceId = some entry → takesPrompt entry text = true →
      s.Vacant c.deviceId) : (s.resume c settings).Owned := by
  unfold Server.resume
  split
  · next captured next hc =>
    have hs : Owned { s with manager := s.manager.forget c.deviceId captured.session } :=
      h.congr rfl rfl
    obtain ⟨ho, hctx⟩ := wakeStopped_spec (d := c.deviceId) hs captured
    refine ho.proceed next fun he hl => ?_
    rw [ctx_congr hctx] at hl
    have hvac : Vacant { s with manager := s.manager.forget c.deviceId captured.session }
        c.deviceId := hv captured (he ▸ hc) hl
    exact hvac.wakeStopped captured
  · split
    · exact h.congr rfl rfl
    · exact h
  · split
    · exact h.realtimeStop _ fun s' _ ho => ho
    · exact h
  · next hc =>
    split
    · next text ht => exact h.dispatchPrompt text (hp hc text ht)
    · exact h

/-- **One action, of whatever kind.** -/
lemma owned_step (s : Server) (a : Action) (h : s.Owned) (hv : s.StartsVacant a) :
    (s.step a).Owned := by
  cases a with
  | message ws msg authenticated settings =>
    simp only [step]
    split
    · exact h
    · next hbusy =>
      split
      · exact h.reply _
      · next type ht =>
        refine h.handleText type msg authenticated fun hend d hd ha hp hstale hr hl => ?_
        subst hend
        refine hv d ?_
        have haccept : s.acceptsVoiceEnd ws d msg authenticated = true := by
          simp [acceptsVoiceEnd, hbusy, ha, hp, hstale, hr, hl]
        simp [startsOn, ht, hd, haccept]
  | resume i settings =>
    simp only [step]
    split
    · next c hc =>
      have hs : Owned { s with suspended := s.suspended.eraseIdx i } := h.congr rfl rfl
      refine hs.resume (fun captured hcont hl => ?_) fun hcont text ht entry he htakes => ?_
      · have hl' : (s.ctx c.ws).state = .listening := hl
        have hstart : s.startsOn (.resume i settings) = some c.deviceId := by
          simp [startsOn, hc, hcont, hl']
        exact hv c.deviceId hstart
      · have he' : s.registry.get? c.deviceId = some entry := he
        have htext : settings.button = some text := ht
        have hstart : s.startsOn (.resume i settings) = some c.deviceId := by
          simp [startsOn, hc, hcont, htext, he', htakes]
        exact hv c.deviceId hstart
    · exact h
  | turn event input world =>
    simp only [step]
    split
    · next job hjob => exact h.stepTurn hjob input world
    · exact h
  | rescue event =>
    simp only [step]
    split
    · next job hjob => exact h.rescue hjob
    · exact h
  | disconnect ws settings =>
    simp only [step]
    split
    · exact h
    · exact Owned.disconnect (s := { s with ended := ws :: s.ended }) (h.congr rfl rfl)
  | closeRevoked ws => exact h.closeRevoked
  | startupFails key code => exact h.startupFails key code
  | sessionState d state => exact h.setState state
  | retire principal => exact h.congr rfl rfl
  | media manager => exact h.congr rfl rfl

lemma owned_init : init.Owned :=
  ⟨fun _ _ h => (by cases h), fun _ h => (by cases h), fun _ _ _ h => (by cases h),
    fun _ _ h => (by cases h.1)⟩

/-- **Turns exclude each other.** In every run whose turns begin on vacant entries, at most one turn
of a device is unfinished with its abort event unset, in every state. -/
theorem turn_exclusivity (acts : List Action) (h : Throughout step StartsVacant init acts) :
    (after step init acts).Exclusive :=
  (Throughout.invariant owned_step owned_init h).exclusive

/-! ### Two turns at once -/

section Sample

def speaker : Principal := ⟨.device, "speaker", "c", "g"⟩

def sampleSettings : Settings := ⟨true, false, false, false, false, false, some [0x41]⟩

def sampleMessage (type : String) : Dict String Json :=
  ((Dict.empty.set "type" (.str type)).set "device_id" (.str "speaker")).set "token" (.str "t")

/-- The device speaks, and is asked again by its button when it is done. -/
def inTurn : List Action :=
  [.message 0 (sampleMessage "voice.start") (some speaker) sampleSettings,
    .message 0 (sampleMessage "voice.end") (some speaker) sampleSettings,
    .message 0 (sampleMessage "abort") (some speaker) sampleSettings,
    .message 0 (sampleMessage "device.button") (some speaker) sampleSettings,
    .resume 0 sampleSettings]

/-- The device listens, says hello again, and its button is pressed before it ends to speak. -/
def atOnce : List Action :=
  [.message 0 (sampleMessage "voice.start") (some speaker) sampleSettings,
    .message 0 (sampleMessage "hello") (some speaker) sampleSettings,
    .message 0 (sampleMessage "device.button") (some speaker) sampleSettings,
    .resume 0 sampleSettings,
    .message 0 (sampleMessage "voice.end") (some speaker) sampleSettings]

theorem turn_exclusivity_sample :
    Throughout step StartsVacant init inTurn ∧ (after step init inTurn).Exclusive := by
  have h : Throughout step StartsVacant init inTurn := by
    refine ⟨?_, ?_, ?_, ?_, ?_, trivial⟩
    · intro d hd
      cases hd
    · intro d hd
      cases hd
      exact ⟨_, rfl, rfl⟩
    · intro d hd
      cases hd
    · intro d hd
      cases hd
    · intro d hd
      cases hd
      exact ⟨_, rfl, rfl⟩
  exact ⟨h, turn_exclusivity inTurn h⟩

/-- **Two turns at once.** The entry of the second `hello` is idle, so the prompt begins; and the
context listens still, so `voice.end` begins a turn too, and overwrites the event of the prompt. -/
theorem atOnce_not_exclusive : ¬(after step init atOnce).Exclusive := by
  intro h
  have he : (2 : ℕ) = 3 := h 2 3 _ _ ⟨rfl, rfl, by decide⟩ ⟨rfl, rfl, by decide⟩ rfl
  exact absurd he (by decide)

end Sample

end Server

end Vauxr.Voice
