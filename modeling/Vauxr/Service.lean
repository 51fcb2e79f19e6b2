import Vauxr.Accept

/-!
What each call does to the committed snapshots: maintenance first, which is never refused, then
one body, and every commit on the way is one of the listed changes.
-/

namespace Vauxr

open Lib

/-- `h'` extends the committed snapshots `h` by changes of one call. -/
abbrev Extends (c : Ctx) (call : Call) (h h' : List Snapshot) : Prop :=
  Chained Snapshot.empty (Change c call) h h'

/-- A fault stopped the program: only a run that is not clean ends so. -/
def Faulty {α : Type} (clean : Bool) (r : Except Error α) : Prop :=
  clean = false ∧ ∃ e, e.storage ∧ r = .error e

variable {c : Ctx} {call : Call} {clean : Bool} {h h' : List Snapshot}

lemma Performed.extend {α : Type} {b : Except Error (Final α)} {r : Except Error α}
    (hb : ∀ s w x, b = .ok (.save s w x) → Change c call (latest h) (w.next s))
    (hp : Performed clean h b r h') : Extends c call h h' := by
  cases hp with
  | error | reply | raise | refused | failed => exact .refl
  | committed s w x r hc hr => exact .single (hb s w x rfl)

/-- Where a body that returned got its result from. -/
lemma Performed.of_ok {α : Type} {b : Except Error (Final α)} {a : α}
    (hp : Performed clean h b (.ok a) h') :
    (b = .ok (.reply a) ∧ h' = h) ∨
      ∃ s w, b = .ok (.save s w (.ok a)) ∧ (w.next s).check s.records = .ok () ∧
        h' = w.next s :: h := by
  cases hp with
  | reply => exact Or.inl ⟨rfl, rfl⟩
  | committed s w x _ hc hr =>
    rcases hr with rfl | ⟨-, e, -, he⟩
    · exact Or.inr ⟨s, w, rfl, hc, rfl⟩
    · cases he

/-- A write that the check accepts is committed, unless a fault stops it. -/
lemma Performed.saved {α : Type} {s : Snapshot} {w : Write} {x r : Except Error α}
    (hp : Performed clean h (.ok (.save s w x)) r h')
    (hc : (w.next s).check s.records = .ok ()) (ha : w.accepted = true) :
    (h' = w.next s :: h ∧ (r = x ∨ Faulty clean r)) ∨ (h' = h ∧ Faulty clean r) := by
  cases hp with
  | refused _ _ _ e hr =>
    rcases hr with hr | ⟨hr, -⟩
    · rw [hc] at hr
      cases hr
    · rw [ha] at hr
      cases hr
  | failed _ _ _ e hcl he => exact Or.inr ⟨rfl, hcl, e, he, rfl⟩
  | committed _ _ _ _ _ hr => exact Or.inl ⟨rfl, hr⟩

namespace Store

/-- A body that only commits listed changes, inside a transaction. -/
lemma perform_commits {α : Type} (call : Call) {body : Snapshot → Except Error (Final α)}
    (hb : (latest h).Valid → Commits c call (latest h) (body (latest h))) :
    Runs (Holds true clean) (perform c body) h
      fun r h' => Performed clean h (body (latest h)) r h' ∧ Extends c call h h' := by
  intro w hw
  have hv := hw.toStored.valid_latest
  obtain ⟨h', hh, hp⟩ := perform_runs c (fun hv => (hb hv).sound) w hw
  exact ⟨h', hh, hp, hp.extend fun s w x hs => ((hb hv).2 s w x hs).2⟩

end Store

/-- Between transactions, whatever memory holds. -/
structure Idle (clean : Bool) (w : World) (h : List Snapshot) : Prop
    extends Stored clean w h where
  active : w.active = false

lemma Holds.idle {w : World} (hw : Holds false clean w h) : Idle clean w h :=
  ⟨hw.toStored, hw.active⟩

/-! ### Maintenance -/

/-- What the sweep does to the committed snapshots when it ends. -/
inductive Sweeps (c : Ctx) (h : List Snapshot) : List Snapshot → Prop
  | settled : Lifecycle.Settled c (latest h) → Sweeps c h h
  | swept (blocked : List String) :
      Lifecycle.Blocks (latest h) (Lifecycle.sweptIds c (latest h)) blocked →
      Sweeps c h (Lifecycle.swept c (latest h) blocked :: h)

/-- What `_state` does to them. -/
inductive Marks (c : Ctx) (h : List Snapshot) : List Snapshot → Prop
  | same : Marks c h h
  | marked : Marks c h ((latest h).withRequests c
      ((latest h).requests.map fun _ => Enrollment.markedRow c (latest h)) :: h)

/-- What the sweep of the integrations does to them. -/
inductive AgentSweeps (h : List Snapshot) : List Snapshot → Prop
  | same : AgentSweeps h h
  | swept (m' : Snapshot) (ids : List String) : AgentsSwept (latest h) m' ids →
      AgentSweeps h (m' :: h)

lemma Sweeps.extend (hs : Sweeps c h h') : Extends c call h h' := by
  cases hs with
  | settled => exact .refl
  | swept blocked hb => exact .single (.sweep blocked hb)

lemma Sweeps.settles (hs : Sweeps c h h') : Lifecycle.Settled c (latest h') := by
  cases hs with
  | settled hs => exact hs
  | swept blocked hb => exact Lifecycle.settled_swept c _ blocked

lemma Marks.extend (hs : Marks c h h') : Extends c call h h' := by
  cases hs with
  | same => exact .refl
  | marked => exact .single .mark

lemma Marks.settled (hs : Marks c h h') (hset : Lifecycle.Settled c (latest h)) :
    Lifecycle.Settled c (latest h') := by
  cases hs with
  | same => exact hset
  | marked => exact ⟨hset.rows, hset.pointers⟩

lemma AgentSweeps.extend (hs : AgentSweeps h h') : Extends c call h h' := by
  cases hs with
  | same => exact .refl
  | swept m' ids hs => exact .single (.agentsSweep m' ids hs)

/-- A maintenance step that relates the histories by `R` when it ends, and that only faults
can stop, before or after its commit. -/
def Maintains (R : List Snapshot → List Snapshot → Prop) (clean : Bool) (h : List Snapshot)
    (r : Except Error Unit) (h' : List Snapshot) : Prop :=
  (r = .ok () ∧ R h h') ∨ (Faulty clean r ∧ (h' = h ∨ R h h'))

lemma Maintains.extend {R : List Snapshot → List Snapshot → Prop} {r : Except Error Unit}
    (hm : Maintains R clean h r h') (hR : ∀ {h h'}, R h h' → Extends c call h h') :
    Extends c call h h' := by
  rcases hm with ⟨-, hm⟩ | ⟨-, rfl | hm⟩
  · exact hR hm
  · exact .refl
  · exact hR hm

/-- A saved body of maintenance, with nothing to return. -/
lemma Performed.maintains {R : List Snapshot → List Snapshot → Prop} {s : Snapshot} {w : Write}
    {r : Except Error Unit} (hp : Performed clean h (.ok (.save s w (.ok ()))) r h')
    (hc : (w.next s).check s.records = .ok ()) (ha : w.accepted = true)
    (hR : R h (w.next s :: h)) : Maintains R clean h r h' := by
  rcases hp.saved hc ha with ⟨rfl, rfl | hf⟩ | ⟨rfl, hf⟩
  · exact Or.inl ⟨rfl, hR⟩
  · exact Or.inr ⟨hf, Or.inr hR⟩
  · exact Or.inr ⟨hf, Or.inl rfl⟩

lemma Performed.replies {R : List Snapshot → List Snapshot → Prop} {r : Except Error Unit}
    (hp : Performed clean h (.ok (.reply ())) r h') (hR : R h h) : Maintains R clean h r h' := by
  cases hp
  exact Or.inl ⟨rfl, hR⟩

namespace Lifecycle

lemma sweepBody_accepted {m s : Snapshot} {write : Write} {x : Except Error Unit}
    (h : sweepBody c m = .ok (.save s write x)) : write.accepted = true := by
  simp only [sweepBody, bind_eq_ok] at h
  obtain ⟨acc, -, h⟩ := h
  split at h
  · cases h
    rfl
  · cases h

lemma sweepBody_runs (c : Ctx) (clean : Bool) (h : List Snapshot) :
    Runs (Holds true clean) (Store.perform c (sweepBody c)) h (Maintains (Sweeps c) clean h) := by
  intro w hw
  have hv := hw.toStored.valid_latest
  have hspec := sweepBody_spec c hv
  have hsound : Sound (latest h) (sweepBody c (latest h)) := by
    rcases hspec with ⟨he, -⟩ | ⟨blocked, write, -, he, -⟩
    · rw [he]
      trivial
    · rw [he]
      exact Or.inr rfl
  obtain ⟨h', hh, hp⟩ := Store.perform_runs c (fun _ => hsound) w hw
  refine ⟨h', hh, ?_⟩
  rcases hspec with ⟨he, hset⟩ | ⟨blocked, write, hb, he, hnext⟩
  · rw [he] at hp
    exact hp.replies (.settled hset)
  · have ha := sweepBody_accepted he
    rw [he] at hp
    refine hp.maintains ?_ ha ?_
    · rw [hnext]
      exact swept_check hv hb
    · rw [hnext]
      exact .swept blocked hb

lemma sweep_runs (c : Ctx) (clean : Bool) (h : List Snapshot) :
    Runs (Holds true clean) (sweep c) h (Maintains (Sweeps c) clean h) :=
  Store.transaction_runs (sweepBody_runs c clean h)

/-- **The maintenance sweep**: whatever memory holds, it ends with nothing overdue and memory as
the file, and only a fault of the storage can stop it. -/
theorem sweep_spec (c : Ctx) {w : World} (hw : Idle clean w h) :
    ∃ h', Holds false clean (outcome (sweep c) w).2 h' ∧
      Maintains (Sweeps c) clean h (outcome (sweep c) w).1 h' :=
  Store.transaction_spec (sweepBody_runs c clean h) hw.toStored hw.active

end Lifecycle

namespace Enrollment

lemma markBody_eq (c : Ctx) (m : Snapshot) :
    markBody c m = .ok (.reply ()) ∨
      markBody c m = .ok (.save m (.enrollment { stateOf c m with
        requests := m.requests.map fun _ => markedRow c m } none) (.ok ())) := by
  unfold markBody
  dsimp only
  split
  · right
    rw [stateOf_requests]
    rfl
  · exact Or.inl rfl

/-- Marking the rows that lost their authority is never refused. -/
lemma mark_runs (c : Ctx) (clean : Bool) (h : List Snapshot) :
    Runs (Holds true clean) (Store.perform c (markBody c)) h (Maintains (Marks c) clean h) := by
  intro w hw
  have hv := hw.toStored.valid_latest
  have hsound : Commits c .ownerRate (latest h) (markBody c (latest h)) := markBody_commits
  obtain ⟨h', hh, hp⟩ := Store.perform_runs c (fun _ => hsound.sound) w hw
  refine ⟨h', hh, ?_⟩
  rcases markBody_eq c (latest h) with he | he
  · rw [he] at hp
    exact hp.replies .same
  · rw [he] at hp
    exact hp.maintains (check_enrollment hv (validate_marked c hv)) (validate_marked c hv) .marked

end Enrollment

namespace Integration

/-- The sweep of the integrations is never refused. -/
lemma sweepBody_runs (c : Ctx) (clean : Bool) (h : List Snapshot) :
    Runs (Holds true clean) (Store.perform c (sweepBody c)) h
      (Maintains AgentSweeps clean h) := by
  intro w hw
  have hv := hw.toStored.valid_latest
  obtain ⟨acc, ids, hs, hbody⟩ := sweepBody_eq c hv
  have hsound : Sound (latest h) (sweepBody c (latest h)) := by
    rw [hbody]
    split
    · exact Or.inl ⟨rfl, rfl⟩
    · trivial
  obtain ⟨h', hh, hp⟩ := Store.perform_runs c (fun _ => hsound) w hw
  refine ⟨h', hh, ?_⟩
  rw [hbody] at hp
  split at hp
  · have hnext : acc.snapshot.Valid :=
      ((Snapshot.check_ok_iff _ _).mp (agentsSwept_check hv hs)).1
    exact hp.maintains
      ((Snapshot.check_ok_iff _ _).mpr ⟨hnext, mutatesCredential_self hnext.ids_nodup⟩) rfl
      (.swept _ ids hs)
  · exact hp.replies .same

lemma sweep_runs (c : Ctx) (clean : Bool) (h : List Snapshot) :
    Runs (Holds true clean) (sweep c) h (Maintains AgentSweeps clean h) :=
  Store.transaction_runs (sweepBody_runs c clean h)

lemma sweep_spec (c : Ctx) {w : World} (hw : Idle clean w h) :
    ∃ h', Holds false clean (outcome (sweep c) w).2 h' ∧
      Maintains AgentSweeps clean h (outcome (sweep c) w).1 h' :=
  Store.transaction_spec (sweepBody_runs c clean h) hw.toStored hw.active

end Integration

/-! ### Requests -/

/-- What a program does from one history to another. -/
abbrev Ran (α : Type) := List Snapshot → Except Error α → List Snapshot → Prop

/-- A request that parses is served, after maintenance that relates the histories by `prep`;
only faults can stop it before. -/
inductive Serves {κ α : Type} (c : Ctx) (call : Call) (clean : Bool)
    (prep : List Snapshot → List Snapshot → Prop) (parsed : Except Error κ) (ran : κ → Ran α)
    (h : List Snapshot) : Except Error α → List Snapshot → Prop
  | unparsed (e : Error) : parsed = .error e → Serves c call clean prep parsed ran h (.error e) h
  | stopped (e : Error) (h' : List Snapshot) : clean = false → e.storage → Extends c call h h' →
      Serves c call clean prep parsed ran h (.error e) h'
  | served (k : κ) (h₁ h' : List Snapshot) (r : Except Error α) : parsed = .ok k → prep h h₁ →
      ran k h₁ r h' → Extends c call h₁ h' → Serves c call clean prep parsed ran h r h'

lemma Serves.extend {κ α : Type} {prep : List Snapshot → List Snapshot → Prop}
    {parsed : Except Error κ} {ran : κ → Ran α} {r : Except Error α}
    (hs : Serves c call clean prep parsed ran h r h')
    (hprep : ∀ {h h'}, prep h h' → Extends c call h h') : Extends c call h h' := by
  cases hs with
  | unparsed => exact .refl
  | stopped _ _ _ _ hx => exact hx
  | served _ _ _ _ _ hp _ hx => exact (hprep hp).trans hx

/-- Maintenance, then what depends on it. -/
lemma Maintains.runs_bind {α : Type} {x : StoreM Unit} {f : Unit → StoreM α}
    {R : List Snapshot → List Snapshot → Prop} {P : Except Error α → List Snapshot → Prop}
    (hx : Runs (Holds true clean) x h (Maintains R clean h))
    (hf : ∀ h₁, R h h₁ → Runs (Holds true clean) (f ()) h₁ P)
    (he : ∀ e h₁, clean = false → e.storage → h₁ = h ∨ R h h₁ → P (.error e) h₁) :
    Runs (Holds true clean) (x >>= f) h P := by
  refine Runs.bind hx (fun _ h₁ hm => ?_) fun e h₁ hm => ?_
  · rcases hm with ⟨-, hm⟩ | ⟨⟨-, e, -, hf⟩, -⟩
    · exact hf h₁ hm
    · cases hf
  · rcases hm with ⟨hm, -⟩ | ⟨⟨hcl, e', he', hf⟩, hm⟩
    · cases hm
    · cases hf
      exact he e h₁ hcl he' hm

lemma Store.mem_runs {α : Type} {active : Bool} {f : Snapshot → StoreM α}
    {P : Except Error α → List Snapshot → Prop} (hf : Runs (Holds active clean) (f (latest h)) h P) :
    Runs (Holds active clean) (Store.mem >>= f) h P := by
  intro w hw
  rw [outcome_bind, Store.outcome_mem]
  dsimp only
  rw [hw.mem]
  exact hf w hw

lemma Store.ofExcept_bind {κ α : Type} (x : Except Error κ) (f : κ → StoreM α) (w : World) :
    outcome (Store.ofExcept x >>= f) w = match x with
      | .ok k => outcome (f k) w
      | .error e => (.error e, w) := by
  rw [outcome_bind, Store.outcome_ofExcept]
  cases x <;> rfl

/-- A parsed request, run in a transaction of its own. -/
lemma serves_of_runs {κ α : Type} {prep : List Snapshot → List Snapshot → Prop}
    {parsed : Except Error κ} {ran : κ → Ran α} {x : κ → StoreM α} {w : World}
    (hx : ∀ k, parsed = .ok k →
      Runs (Holds true clean) (x k) h (Serves c call clean prep parsed ran h))
    (hw : Holds false clean w h) :
    ∃ h', Holds false clean
        (outcome (Store.ofExcept parsed >>= fun k => Store.transaction (x k)) w).2 h' ∧
      Serves c call clean prep parsed ran h
        (outcome (Store.ofExcept parsed >>= fun k => Store.transaction (x k)) w).1 h' := by
  rw [Store.ofExcept_bind]
  cases parsed with
  | error e => exact ⟨h, hw, .unparsed e rfl⟩
  | ok k => exact Store.transaction_spec (hx k rfl) hw.toStored hw.active

namespace Lifecycle

/-- **A lifecycle request**: it is served on a snapshot that maintenance has settled. -/
theorem execute_spec (c : Ctx) (action : String) (request : Json) (resolve : Resolve)
    {w : World} (hw : Holds false clean w h) :
    ∃ h', Holds false clean (outcome (execute c action request resolve) w).2 h' ∧
      Serves c (.lifecycle action request resolve) clean (Sweeps c) (parse action request)
        (fun k h₁ => Performed clean h₁ (body c k resolve (latest h₁))) h
        (outcome (execute c action request resolve) w).1 h' := by
  refine serves_of_runs (fun k hk => ?_) hw
  refine Maintains.runs_bind (sweep_runs c clean h) (fun h₁ hs => ?_) fun e h₁ hcl he hs => ?_
  · refine (Store.perform_commits _ fun hv => body_commits hs.settles fun p hp =>
      ⟨action, request, resolve, rfl, hk, hp⟩).conseq ?_
    rintro r h' ⟨hp, hx⟩
    exact .served k h₁ h' r hk hs hp hx
  · refine .stopped e h₁ hcl he ?_
    rcases hs with rfl | hs
    · exact .refl
    · exact hs.extend

end Lifecycle

namespace Enrollment

/-- Maintenance of the lifecycle, then of the enrollment rows. -/
def Prepares (c : Ctx) (h h₁ : List Snapshot) : Prop := ∃ h₀, Sweeps c h h₀ ∧ Marks c h₀ h₁

lemma Prepares.extend {call : Vauxr.Call} (hp : Prepares c h h') : Extends c call h h' := by
  obtain ⟨h₀, hs, hm⟩ := hp
  exact hs.extend.trans hm.extend

lemma Prepares.settled (hp : Prepares c h h') : Lifecycle.Settled c (latest h') := by
  obtain ⟨h₀, hs, hm⟩ := hp
  exact hm.settled hs.settles

/-- **An enrollment request**: it is served on a settled snapshot too. -/
theorem execute_spec (c : Ctx) (action : String) (request : Json) (resolve : Resolve)
    {w : World} (hw : Holds false clean w h) :
    ∃ h', Holds false clean (outcome (execute c action request resolve) w).2 h' ∧
      Serves c (.enrollment action request resolve) clean (Prepares c) (parse action request)
        (fun k h₁ => Performed clean h₁ (body c k resolve (latest h₁))) h
        (outcome (execute c action request resolve) w).1 h' := by
  refine serves_of_runs (fun k hk => ?_) hw
  refine Maintains.runs_bind (Lifecycle.sweep_runs c clean h) (fun h₀ hs => ?_)
    fun e h₁ hcl he hs => ?_
  · refine Maintains.runs_bind (mark_runs c clean h₀) (fun h₁ hm => ?_) fun e h₁ hcl he hm => ?_
    · have hprep : Prepares c h h₁ := ⟨h₀, hs, hm⟩
      refine (Store.perform_commits _ fun hv => body_commits hv hprep.settled
        ⟨action, request, rfl, hk⟩).conseq ?_
      rintro r h' ⟨hp, hx⟩
      exact .served k h₁ h' r hk hprep hp hx
    · refine .stopped e h₁ hcl he ?_
      rcases hm with rfl | hm
      · exact hs.extend
      · exact hs.extend.trans hm.extend
  · refine .stopped e h₁ hcl he ?_
    rcases hs with rfl | hs
    · exact .refl
    · exact hs.extend

end Enrollment

namespace Integration

/-- The body of a request that is one; the other two compose several programs. -/
def bodyOf (c : Ctx) (resolve : Resolve) : Call → Option (Snapshot → Except Error (Final Reply))
  | .status client => some (statusBody c client)
  | .deliver client => some (deliverBody c client)
  | .cancel client => some (cancelBody c client)
  | .list => some (listBody resolve)
  | .approve requestId code => some (approveBody c resolve requestId code)
  | .deny requestId => some (denyBody resolve requestId)
  | .request .. => none
  | .ack .. => none

/-- A reply that hands out no credential. -/
def Reply.quiet : Reply → Prop
  | .delivered .. => False
  | _ => True

variable {call : Vauxr.Call} {resolve : Resolve}

lemma bodyOf_commits {k : Call} {b : Snapshot → Except Error (Final Reply)} {m : Snapshot}
    (hb : bodyOf c resolve k = some b) (hm : m.Valid) : Commits c call m (b m) := by
  cases k with
  | request | ack => cases hb
  | status client =>
    cases hb
    exact Commits.bind fun _ _ => Commits.reply _
  | deliver client =>
    cases hb
    exact deliverBody_commits hm
  | cancel client =>
    cases hb
    exact Commits.bind fun row hrow =>
      closeBody_commits hm (nativeRow_eq_ok hrow) (Or.inr rfl)
  | list =>
    cases hb
    exact Commits.bind fun _ _ => Commits.reply _
  | approve requestId code =>
    cases hb
    exact approveBody_commits hm
  | deny requestId =>
    cases hb
    exact Commits.bind fun _ _ => Commits.bind fun row hrow =>
      closeBody_commits hm (lookup_eq_ok hrow) (Or.inl rfl)

lemma requestReply_quiet {row : Row} {client : Client} {terms : Terms} {reply : Reply}
    (h : requestReply c row client terms = .ok reply) : reply.quiet := by
  simp only [requestReply, bind_eq_ok] at h
  obtain ⟨-, -, -, -, h⟩ := h
  cases h
  trivial

lemma admission_congr {m m' : Snapshot} (hi : m'.integration = m.integration)
    (ho : m'.owner = m.owner) (terms : Terms) : admission c m' terms = admission c m terms := by
  unfold admission retained stateOf Snapshot.ownerActive
  rw [hi, ho]

lemma ownerActive_of_admission {m : Snapshot} {terms : Terms} (h : admission c m terms = .ok ()) :
    m.ownerActive = true := by
  simp only [admission, bind_eq_ok, refuse_eq_ok, exists_const] at h
  simpa using h.2.2.1

lemma createBody_quiet {m : Snapshot} {client : Client} {terms : Terms} {reply : Reply}
    (hp : Performed clean h (createBody c client terms m) (.ok reply) h') : reply.quiet := by
  rcases hp.of_ok with ⟨hb, -⟩ | ⟨s, w, hb, -⟩
  · unfold createBody at hb
    dsimp only at hb
    split at hb <;> cases hb
  · unfold createBody at hb
    dsimp only at hb
    split at hb
    · cases hb
    · injection hb with hb
      injection hb with _ _ hx
      exact requestReply_quiet hx

/-- A request creates its row on the snapshot that marking leaves, which admits it as well. -/
lemma request_runs (c : Ctx) (clean : Bool) (client : Client) (origin name expiresAt : Json)
    (h : List Snapshot) :
    Runs (Holds true clean) (request c client origin name expiresAt) h fun r h' =>
      (∀ reply, r = .ok reply → reply.quiet) ∧ Extends c call h h' := by
  refine Runs.bind (Store.ofExcept_runs _ _ _ _) (fun terms h₀ hq => ?_) fun e h₀ hq => ?_
  · obtain ⟨-, rfl⟩ := hq
    refine Store.mem_runs ?_
    split
    · next row hrow =>
      refine (Store.ofExcept_runs _ _ _ _).conseq ?_
      rintro r h' ⟨rfl, rfl⟩
      exact ⟨fun reply hr => requestReply_quiet hr, .refl⟩
    · next hnone =>
      rw [stateOf_requests] at hnone
      refine Runs.bind (Store.ofExcept_runs _ _ _ _) (fun _ h₁ hq => ?_) fun e h₁ hq => ?_
      · obtain ⟨hadm, rfl⟩ := hq
        refine Maintains.runs_bind (Enrollment.mark_runs c clean h₁) (fun h₂ hm => ?_)
          fun e h₂ _ _ hm => ⟨fun _ hr => (nomatch hr), ?_⟩
        · have hsame : (latest h₂).integration = (latest h₁).integration ∧
              (latest h₂).owner = (latest h₁).owner := by
            cases hm <;> exact ⟨rfl, rfl⟩
          have hnone₂ : (latest h₂).agents.get? client.requestId = none := by
            unfold Snapshot.agents
            rw [hsame.1]
            exact hnone
          have hadm₂ := (admission_congr hsame.1 hsame.2 terms).trans hadm.symm
          refine (Store.perform_commits call fun _ => createBody_commits hnone₂
            (ownerActive_of_admission hadm₂) hadm₂).conseq ?_
          rintro r h' ⟨hp, hx⟩
          refine ⟨?_, hm.extend.trans hx⟩
          rintro reply rfl
          exact createBody_quiet hp
        · rcases hm with rfl | hm
          · exact .refl
          · exact hm.extend
      · obtain ⟨-, rfl⟩ := hq
        exact ⟨fun _ hr => (nomatch hr), .refl⟩
  · obtain ⟨-, rfl⟩ := hq
    exact ⟨fun _ hr => (nomatch hr), .refl⟩

/-- The agent of a valid row passes the check of the registry. -/
lemma agentOf_valid {m : Snapshot} (hm : m.Valid) {id : String} {row : Row}
    (hget : m.agents.get? id = some row) : Agents.rowValid (agentOf c row) = true := by
  have hv := hm.agent hget
  obtain ⟨-, hagent⟩ := hm.agent_request_id hget
  simp only [validateRow, Bool.and_eq_true] at hv
  have hname : displayName row.displayName = true := by tauto
  have hne : row.displayName ≠ "" := by
    intro he
    rw [he] at hname
    cases hname
  have hid : row.agentId.toList.head? = some 'i' := by
    rw [hagent, String.toList_append]
    rfl
  have h1 : row.agentId ≠ "" := by
    intro he
    rw [he] at hid
    cases hid
  have h2 : row.agentId ≠ "openclaw-direct" := by
    intro he
    rw [he] at hid
    exact absurd hid (by decide)
  simp [Agents.rowValid, agentOf, h1, h2, hne, c.platform.isoformat_ne_empty]

/-- An acknowledgement registers the agent, then completes the row it checked. -/
lemma acknowledged_row {m : Snapshot} {client : Client} {credential saved : Json} {row : Row}
    {r : Credential} (h : acknowledged c m client credential saved = .ok (row, r)) :
    m.agents.get? client.requestId = some row := by
  simp only [acknowledged, bind_eq_ok] at h
  obtain ⟨row', hrow, token, -, r', -, -, -, -, -, he⟩ := h
  cases he
  exact nativeRow_eq_ok hrow

lemma ack_runs (c : Ctx) (clean : Bool) (client : Client) (credential saved : Json)
    (h : List Snapshot) :
    Runs (Holds true clean) (ack c client credential saved) h fun r h' =>
      (∀ reply, r = .ok reply → reply.quiet) ∧ Extends c call h h' := by
  refine Store.mem_runs ?_
  intro w hw
  have hv := hw.toStored.valid_latest
  rw [Store.ofExcept_bind]
  cases hack : acknowledged c (latest h) client credential saved with
  | error e =>
    refine ⟨h, hw, ?_, .refl⟩
    intro reply hr
    cases hr
  | ok k =>
    obtain ⟨row, r⟩ := k
    have hget := acknowledged_row hack
    suffices hrun : Runs (Holds true clean)
        (Store.registerAgent c (agentOf c row) >>= fun _ => Store.perform c (completeBody row r)) h
        fun r h' => (∀ reply, r = .ok reply → Reply.quiet reply) ∧ Extends c call h h' from
      hrun w hw
    refine Runs.bind (Store.framed_runs (Store.framed_registerAgent c (agentOf_valid hv hget))
      true clean h) (fun _ h₁ hq => ?_) fun e h₁ hq => ?_
    · obtain ⟨rfl, -⟩ := hq
      refine (Store.perform_commits call fun hv => completeBody_commits hv hack).conseq ?_
      rintro r' h' ⟨hp, hx⟩
      refine ⟨?_, hx⟩
      rintro reply rfl
      unfold completeBody at hp
      rcases hp.of_ok with ⟨hb, -⟩ | ⟨s, w, hb, -⟩
      · split at hb <;> cases hb
        trivial
      · split at hb <;> cases hb
        trivial
    · obtain ⟨rfl, -⟩ := hq
      refine ⟨?_, .refl⟩
      intro reply hr
      cases hr

/-- What the run of a request does. -/
def Ran (c : Ctx) (clean : Bool) (resolve : Resolve) (k : Call) : Vauxr.Ran Reply :=
  fun h r h' => match bodyOf c resolve k with
    | some b => Performed clean h (b (latest h)) r h'
    | none => ∀ reply, r = .ok reply → reply.quiet

lemma bodyOf_runs (call : Vauxr.Call) {k : Call} {b : Snapshot → Except Error (Final Reply)}
    (hb : bodyOf c resolve k = some b) :
    Runs (Holds true clean) (Store.perform c b) h fun r h' =>
      Ran c clean resolve k h r h' ∧ Extends c call h h' := by
  unfold Ran
  rw [hb]
  exact Store.perform_commits call fun hv => bodyOf_commits hb hv

lemma run_runs (c : Ctx) (call : Vauxr.Call) (clean : Bool) (resolve : Resolve) (k : Call)
    (h : List Snapshot) :
    Runs (Holds true clean) (run c k resolve) h fun r h' =>
      Ran c clean resolve k h r h' ∧ Extends c call h h' := by
  cases k with
  | request client origin name expiresAt => exact request_runs c clean client origin name expiresAt h
  | ack client credential saved => exact ack_runs c clean client credential saved h
  | status | deliver | cancel | list | approve | deny => exact bodyOf_runs call rfl

/-- **An integration request**: it is served after the sweep of the integrations. -/
theorem execute_spec (c : Ctx) (action : String) (request : Json) (resolve : Resolve)
    {w : World} (hw : Holds false clean w h) :
    ∃ h', Holds false clean (outcome (execute c action request resolve) w).2 h' ∧
      Serves c (.integration action request resolve) clean AgentSweeps (parse action request)
        (Ran c clean resolve) h (outcome (execute c action request resolve) w).1 h' := by
  refine serves_of_runs (fun k hk => ?_) hw
  refine Maintains.runs_bind (sweep_runs c clean h) (fun h₁ hs => ?_) fun e h₁ hcl he hs => ?_
  · refine (run_runs c (.integration action request resolve) clean resolve k h₁).conseq ?_
    rintro r h' ⟨hp, hx⟩
    exact .served k h₁ h' r hk hs hp hx
  · refine .stopped e h₁ hcl he ?_
    rcases hs with rfl | hs
    · exact .refl
    · exact hs.extend

end Integration

/-! ### The start of a process -/

namespace Store

/-- A transaction of one such body. -/
lemma transaction_performed {α : Type} (call : Call) {body : Snapshot → Except Error (Final α)}
    (hb : (latest h).Valid → Commits c call (latest h) (body (latest h))) {w : World}
    (hw : Idle clean w h) :
    ∃ h', Holds false clean (outcome (transaction (perform c body)) w).2 h' ∧
      Performed clean h (body (latest h)) (outcome (transaction (perform c body)) w).1 h' ∧
      Extends c call h h' :=
  transaction_spec (perform_commits call hb) hw.toStored hw.active

/-- A transaction of programs that only commit changes of the call. -/
lemma transaction_extends {α : Type} {x : StoreM α}
    (hx : Runs (Holds true clean) x h fun _ h' => Extends c call h h') {w : World}
    (hw : Idle clean w h) :
    ∃ h', Holds false clean (outcome (transaction x) w).2 h' ∧ Extends c call h h' :=
  transaction_spec hx hw.toStored hw.active

lemma perform_extends {α : Type} (call : Call) {body : Snapshot → Except Error (Final α)}
    (hb : (latest h).Valid → Commits c call (latest h) (body (latest h))) :
    Runs (Holds true clean) (perform c body) h fun _ h' => Extends c call h h' :=
  (perform_commits call hb).conseq fun _ _ hp => hp.2

lemma extends_bind {α β : Type} {x : StoreM α} {f : α → StoreM β}
    (hx : Runs (Holds true clean) x h fun _ h' => Extends c call h h')
    (hf : ∀ a h₁, Runs (Holds true clean) (f a) h₁ fun _ h' => Extends c call h₁ h') :
    Runs (Holds true clean) (x >>= f) h fun _ h' => Extends c call h h' :=
  Runs.bind hx (fun a h₁ h1 => (hf a h₁).conseq fun _ _ h2 => h1.trans h2) fun _ _ h1 => h1

end Store

namespace Owner

lemma init_extends (call : Call) {w : World} (hw : Idle clean w h) :
    ∃ h', Holds false clean (outcome (init c) w).2 h' ∧ Extends c call h h' :=
  Store.transaction_extends (Store.extends_bind
    (Store.perform_extends call fun _ => initializeBody_commits)
    fun _ _ => Store.perform_extends call fun _ => bindOriginBody_commits) hw

end Owner

/-- A start hook commits changes, and leaves memory as the file unless it raises. -/
def Hook (c : Ctx) (call : Call) (clean : Bool) (x : StoreM Unit) : Prop :=
  ∀ w h, Idle clean w h → ∃ h', Idle clean (outcome x w).2 h' ∧ Extends c call h h' ∧
    ∀ u, (outcome x w).1 = .ok u → Holds false clean (outcome x w).2 h'

namespace Hook

lemma of_holds {x : StoreM Unit}
    (hx : ∀ w h, Idle clean w h →
      ∃ h', Holds false clean (outcome x w).2 h' ∧ Extends c call h h') : Hook c call clean x := by
  intro w h hw
  obtain ⟨h', hh, hr⟩ := hx w h hw
  exact ⟨h', hh.idle, hr, fun _ _ => hh⟩

lemma bind {x : StoreM Unit} {f : Unit → StoreM Unit} (hx : Hook c call clean x)
    (hf : Hook c call clean (f ())) : Hook c call clean (x >>= f) := by
  intro w h hw
  obtain ⟨h₁, h1, h2, -⟩ := hx w h hw
  rw [outcome_bind]
  rcases ho : outcome x w with ⟨r, w₁⟩
  rw [ho] at h1
  cases r with
  | error e => exact ⟨h₁, h1, h2, fun _ hr => nomatch hr⟩
  | ok u =>
    obtain ⟨h', h3, h4, h5⟩ := hf w₁ h₁ h1
    exact ⟨h', h3, h2.trans h4, h5⟩

end Hook

namespace Enrollment

/-- What is bound stays in memory only if the hook raises. -/
lemma bindBody_runs (call : Vauxr.Call) {w : World} (hw : Holds true clean w h) :
    ∃ h', Stored clean (outcome (Store.perform c bindBody) w).2 h' ∧ Extends c call h h' ∧
      ∀ u, (outcome (Store.perform c bindBody) w).1 = .ok u →
        (outcome (Store.perform c bindBody) w).2.mem = latest h' := by
  obtain ⟨h', hp, hst, -, hm⟩ := Store.perform_spec c bindBody hw
  refine ⟨h', hst, hp.extend fun s w x hs => (bindBody_change hs).2, fun u hu => ?_⟩
  rcases hm with hm | ⟨he, hns, -⟩
  · exact hm
  · rw [hu] at hp
    rcases hp.of_ok with ⟨hb, -⟩ | ⟨s, w', -, -, hb⟩
    · rw [hb] at hns
      exact absurd trivial hns
    · have := congrArg List.length (hb.symm.trans he)
      simp at this

lemma init_hook (call : Vauxr.Call) : Hook c call clean (init c) := by
  intro w h hw
  unfold init
  rw [Store.outcome_transaction _ hw.toStored hw.active]
  obtain ⟨h₁, hh, hm⟩ := mark_runs c clean h { w with mem := latest h, active := true }
    ⟨⟨hw.files, hw.faults, hw.registry⟩, rfl, rfl⟩
  have hx : Extends c call _ _ := hm.extend fun hm => hm.extend
  rw [outcome_bind]
  rcases ho : outcome (Store.perform c (markBody c)) { w with mem := latest h, active := true }
    with ⟨r, w₁⟩
  rw [ho] at hh
  cases r with
  | error e =>
    exact ⟨h₁, ⟨⟨hh.files, hh.faults, hh.registry⟩, rfl⟩, hx, fun _ hr => nomatch hr⟩
  | ok u =>
    obtain ⟨h', hst, hx', hmem⟩ := bindBody_runs (c := c) call hh
    have hst' : Stored clean { (outcome (Store.perform c bindBody) w₁).2 with active := false }
        h' := ⟨hst.files, hst.faults, hst.registry⟩
    exact ⟨h', ⟨hst', rfl⟩, hx.trans hx', fun u hu => ⟨hst', rfl, hmem u hu⟩⟩

end Enrollment

namespace System

lemma load_idle {w : World} (hw : Idle clean w h) :
    Holds false clean (outcome Store.load w).2 h := by
  rw [Store.outcome_load hw.toStored]
  exact ⟨⟨hw.files, hw.faults, hw.registry⟩, hw.active, rfl⟩

lemma startHooks_hook (call : Call) : Hook c call clean (startHooks c) := by
  refine Hook.bind (Hook.of_holds fun w h hw => ?_) (Hook.bind (Hook.of_holds fun w h hw =>
    Owner.init_extends call hw) (Hook.bind (Enrollment.init_hook call)
      (Hook.of_holds fun w h hw => ?_)))
  · obtain ⟨h', hh, hm⟩ := Lifecycle.sweep_spec c hw
    exact ⟨h', hh, hm.extend fun hs => hs.extend⟩
  · obtain ⟨h₁, hh, hm⟩ := Integration.sweep_spec c hw
    have hx : Extends c call _ _ := hm.extend fun hs => hs.extend
    rw [outcome_bind]
    rcases ho : outcome (Integration.sweep c) w with ⟨r, w₁⟩
    rw [ho] at hh
    cases r with
    | error e => exact ⟨h₁, hh, hx⟩
    | ok u =>
      obtain ⟨h', hh', rfl, -⟩ := Store.framed_runs (Store.framed_loadAgents c) _ _ _ w₁ hh
      exact ⟨h', hh', hx⟩

/-- A start ends with memory as the file, also when a hook fails. -/
lemma start_extends (call : Call) {w : World} (hw : Idle clean w h) :
    ∃ h', Holds false clean (outcome (start c) w).2 h' ∧ Extends c call h h' := by
  have hw' : Idle clean { w with registry := { w.registry with loaded := none } } h :=
    ⟨⟨hw.files, hw.faults, hw.registry⟩, hw.active⟩
  have hl := load_idle hw'
  have hx : outcome (start c) w = outcome (tryCatch (startHooks c) fun e => do
      Store.load
      throw e) (outcome Store.load { w with registry := { w.registry with loaded := none } }).2 := by
    unfold start
    rw [outcome_bind, outcome_modify]
    dsimp only
    rw [outcome_bind, Store.outcome_load hw'.toStored]
  rw [hx, outcome_tryCatch]
  obtain ⟨h', h1, h2, h3⟩ := startHooks_hook call _ _ hl.idle
  rcases ho : outcome (startHooks c) _ with ⟨r, w₁⟩
  rw [ho] at h1 h3
  cases r with
  | ok u => exact ⟨h', h3 u rfl, h2⟩
  | error e =>
    refine ⟨h', ?_, h2⟩
    dsimp only
    rw [outcome_bind, Store.outcome_load h1.toStored]
    exact ⟨⟨h1.files, h1.faults, h1.registry⟩, h1.active, rfl⟩

/-! ### All calls -/

lemma outcome_bind_pure {α : Type} (x : StoreM α) (f : α → Reply) (w : World) :
    outcome (x >>= fun a => pure (f a)) w = ((outcome x w).1.map f, (outcome x w).2) := by
  rw [outcome_bind]
  rcases outcome x w with ⟨r, w'⟩
  cases r <;> rfl

/-- **The services**: every call of theirs commits listed changes only, and leaves memory as the
file, whether it returns or raises and whatever faults its writes meet. -/
theorem exec_spec (hcall : call.service = true) {w : World} (hw : Holds false clean w h) :
    ∃ h', Holds false clean (outcome (exec c call) w).2 h' ∧ Extends c call h h' := by
  cases call with
  | replace | stage => cases hcall
  | console recover =>
    simp only [exec, outcome_bind_pure]
    exact Store.transaction_extends
      (Store.perform_extends _ fun _ => Owner.consoleClaimBody_commits) hw.idle
  | ownerRate =>
    simp only [exec, outcome_bind_pure]
    exact Store.transaction_extends (Store.perform_extends _ fun _ => Owner.rateBody_commits)
      hw.idle
  | claim code =>
    simp only [exec, outcome_bind_pure]
    exact Store.transaction_extends (Store.perform_extends _ fun _ => Owner.claimBody_commits)
      hw.idle
  | acknowledge acknowledgement saved =>
    simp only [exec, outcome_bind_pure]
    exact Store.transaction_extends
      (Store.perform_extends _ fun _ => Owner.acknowledgeBody_commits) hw.idle
  | login token =>
    simp only [exec, outcome_bind_pure]
    exact Store.transaction_extends (Store.perform_extends _ fun _ => Owner.loginBody_commits)
      hw.idle
  | session cookie =>
    simp only [exec, outcome_bind_pure]
    exact Store.transaction_extends (Store.perform_extends _ fun _ => Commits.reply _) hw.idle
  | logout cookie =>
    simp only [exec, outcome_bind_pure]
    exact Store.transaction_extends (Store.perform_extends _ fun _ => Owner.logoutBody_commits)
      hw.idle
  | ownerInit =>
    simp only [exec, outcome_bind_pure]
    exact Owner.init_extends _ hw.idle
  | enrollment action body resolve =>
    simp only [exec, outcome_bind_pure]
    obtain ⟨h', hh, hs⟩ := Enrollment.execute_spec c action body resolve hw
    exact ⟨h', hh, hs.extend fun hp => hp.extend⟩
  | enrollmentRate =>
    simp only [exec, outcome_bind_pure]
    refine Store.transaction_extends (Maintains.runs_bind (Enrollment.mark_runs c clean h)
      (fun h₁ hm => ?_) fun e h₁ _ _ hm => ?_) hw.idle
    · exact (Store.perform_extends _ fun _ => Enrollment.rateBody_commits).conseq
        fun _ _ hx => hm.extend.trans hx
    · rcases hm with rfl | hm
      · exact .refl
      · exact hm.extend
  | lifecycle action body resolve =>
    simp only [exec, outcome_bind_pure]
    obtain ⟨h', hh, hs⟩ := Lifecycle.execute_spec c action body resolve hw
    exact ⟨h', hh, hs.extend fun hp => hp.extend⟩
  | lifecycleSweep =>
    simp only [exec, outcome_bind_pure]
    obtain ⟨h', hh, hm⟩ := Lifecycle.sweep_spec c hw.idle
    exact ⟨h', hh, hm.extend fun hs => hs.extend⟩
  | integration action body resolve =>
    simp only [exec, outcome_bind_pure]
    obtain ⟨h', hh, hs⟩ := Integration.execute_spec c action body resolve hw
    exact ⟨h', hh, hs.extend fun hp => hp.extend⟩
  | integrationSweep =>
    simp only [exec, outcome_bind_pure]
    obtain ⟨h', hh, hm⟩ := Integration.sweep_spec c hw.idle
    exact ⟨h', hh, hm.extend fun hs => hs.extend⟩
  | start =>
    simp only [exec, outcome_bind_pure]
    exact start_extends _ hw.idle
  | reload =>
    simp only [exec, outcome_bind_pure]
    exact ⟨h, load_idle hw.idle, .refl⟩

end System

end Vauxr
