import Mathlib
import Vauxr.Runs

/-!
Which body a commit comes from.

`Change` says how two committed snapshots differ; here every commit of a call is traced to the
body that wrote it, for what depends on the terms of that body.
-/

namespace Vauxr

open Lib

/-- The body ends in a write of this snapshot. -/
def Writes {α : Type} (b : Except Error (Final α)) (m' : Snapshot) : Prop :=
  ∃ s w x, b = .ok (.save s w x) ∧ m' = w.next s

/-! ### What the writes of a body ensure -/

/-- Whatever the body writes meets `P`. -/
def Ensures {α : Type} (b : Except Error (Final α)) (P : Snapshot → Prop) : Prop :=
  ∀ m', Writes b m' → P m'

namespace Ensures

variable {α β : Type} {P : Snapshot → Prop}

lemma bind {x : Except Error β} {f : β → Except Error (Final α)}
    (h : ∀ a, x = .ok a → Ensures (f a) P) : Ensures (x >>= f) P := by
  rintro m' ⟨s, w, r, hb, hm⟩
  obtain ⟨a, ha, hf⟩ := bind_eq_ok.mp hb
  exact h a ha m' ⟨s, w, r, hf, hm⟩

lemma reply (a : α) : Ensures (.ok (.reply a)) P := by
  rintro m' ⟨s, w, r, hb, -⟩
  cases hb

lemma raise (s : Snapshot) (e : Error) : Ensures (.ok (.raise s e) : Except Error (Final α)) P := by
  rintro m' ⟨s', w, r, hb, -⟩
  cases hb

lemma error (e : Error) : Ensures (.error e : Except Error (Final α)) P := by
  rintro m' ⟨s, w, r, hb, -⟩
  cases hb

lemma save {s : Snapshot} {w : Write} {r : Except Error α} (hP : P (w.next s)) :
    Ensures (.ok (.save s w r)) P := by
  rintro m' ⟨s', w', r', hb, rfl⟩
  cases hb
  exact hP

end Ensures

/-- `m'` is what one of the bodies that the call runs writes on `m`. -/
inductive Wrote (c : Ctx) (call : Call) (m m' : Snapshot) : Prop
  -- owner
  | console (recover : Bool) : call = .console recover →
      Writes (Owner.consoleClaimBody c recover m) m' → Wrote c call m m'
  | ownerRate : call = .ownerRate → Writes (Owner.rateBody c m) m' → Wrote c call m m'
  | claim (code : Json) : call = .claim code → Writes (Owner.claimBody c code m) m' →
      Wrote c call m m'
  | acknowledge (acknowledgement saved : Json) : call = .acknowledge acknowledgement saved →
      Writes (Owner.acknowledgeBody c acknowledgement saved m) m' → Wrote c call m m'
  | login (token : Json) : call = .login token → Writes (Owner.loginBody c token m) m' →
      Wrote c call m m'
  | logout (cookie : String) : call = .logout cookie → Writes (Owner.logoutBody c cookie m) m' →
      Wrote c call m m'
  | ownerInit : call = .ownerInit ∨ call = .start → Writes (Owner.initializeBody c m) m' →
      Wrote c call m m'
  | bindOrigin : call = .ownerInit ∨ call = .start → Writes (Owner.bindOriginBody c m) m' →
      Wrote c call m m'
  -- maintenance
  | sweep (blocked : List String) : Lifecycle.Blocks m (Lifecycle.sweptIds c m) blocked →
      m' = Lifecycle.swept c m blocked → Wrote c call m m'
  | mark : m' = m.withRequests c (m.requests.map fun _ => Enrollment.markedRow c m) →
      Wrote c call m m'
  | agentsSweep (ids : List String) : AgentsSwept m m' ids → Wrote c call m m'
  -- requests
  | enrollment (action : String) (body : Json) (resolve : Resolve) (k : Enrollment.Call) :
      call = .enrollment action body resolve → Enrollment.parse action body = .ok k →
      Writes (Enrollment.body c k resolve m) m' → Wrote c call m m'
  | enrollmentRate : call = .enrollmentRate → Writes (Enrollment.rateBody c m) m' →
      Wrote c call m m'
  | bindConsumed : call = .start → Writes (Enrollment.bindBody m) m' → Wrote c call m m'
  | lifecycle (action : String) (body : Json) (resolve : Resolve) (k : Lifecycle.Call) :
      call = .lifecycle action body resolve → Lifecycle.parse action body = .ok k →
      Writes (Lifecycle.body c k resolve m) m' → Wrote c call m m'
  | integration (action : String) (body : Json) (resolve : Resolve) (k : Integration.Call)
      (b : Snapshot → Except Error (Final Integration.Reply)) :
      call = .integration action body resolve → Integration.parse action body = .ok k →
      Integration.bodyOf c resolve k = some b → Writes (b m) m' → Wrote c call m m'
  | agentCreate (action : String) (body : Json) (resolve : Resolve)
      (client : Integration.Client) (origin name expiresAt : Json) (terms : Integration.Terms) :
      call = .integration action body resolve →
      Integration.parse action body = .ok (.request client origin name expiresAt) →
      Integration.parseRequest c origin name expiresAt = .ok terms →
      m.agents.get? client.requestId = none → Integration.admission c m terms = .ok () →
      Writes (Integration.createBody c client terms m) m' → Wrote c call m m'
  | agentComplete (action : String) (body : Json) (resolve : Resolve)
      (client : Integration.Client) (credential saved : Json) (row : Integration.Row)
      (r : Credential) : call = .integration action body resolve →
      Integration.parse action body = .ok (.ack client credential saved) →
      Integration.acknowledged c m client credential saved = .ok (row, r) →
      Writes (Integration.completeBody row r m) m' → Wrote c call m m'

variable {c : Ctx} {call : Call} {clean : Bool} {h h₁ h' : List Snapshot} {w : World}

/-- The history of a call, commit by commit. -/
abbrev Traces (c : Ctx) (call : Call) (h h' : List Snapshot) : Prop :=
  Chained Snapshot.empty (Wrote c call) h h'

lemma Sweeps.traces (hs : Sweeps c h h') : Traces c call h h' := by
  cases hs with
  | settled => exact .refl
  | swept blocked hb => exact .single (.sweep blocked hb rfl)

lemma Marks.traces (hm : Marks c h h') : Traces c call h h' := by
  cases hm with
  | same => exact .refl
  | marked => exact .single (.mark rfl)

lemma AgentSweeps.traces (hs : AgentSweeps h h') : Traces c call h h' := by
  cases hs with
  | same => exact .refl
  | swept m' ids hs => exact .single (.agentsSweep ids hs)

/-! ### Programs -/

lemma Stored.unique {clean clean' : Bool} (hw : Stored clean w h) (hw' : Stored clean' w h') :
    h = h' := hw.committed.symm.trans hw'.committed

/-- Run in this world, the program ends with a result and a history that meet `P`, whatever it
leaves in memory. -/
def Leaves {α : Type} (clean : Bool) (x : StoreM α) (w : World)
    (P : Except Error α → List Snapshot → Prop) : Prop :=
  ∃ h', Stored clean (outcome x w).2 h' ∧ P (outcome x w).1 h'

namespace Leaves

variable {α β : Type} {x : StoreM α} {f : α → StoreM β}

lemma conseq {P Q : Except Error α → List Snapshot → Prop} (hx : Leaves clean x w P)
    (hPQ : ∀ r h', P r h' → Q r h') : Leaves clean x w Q := by
  obtain ⟨h', hst, hp⟩ := hx
  exact ⟨h', hst, hPQ _ _ hp⟩

/-- What follows a program that keeps memory as the file. -/
lemma bind {P : Except Error β → List Snapshot → Prop} {active : Bool}
    {Q : Except Error α → List Snapshot → Prop} (hw : Holds active clean w h)
    (hx : Runs (Holds active clean) x h Q)
    (hf : ∀ a w₁ h₁, Holds active clean w₁ h₁ → Q (.ok a) h₁ → Leaves clean (f a) w₁ P)
    (he : ∀ e h₁, Q (.error e) h₁ → P (.error e) h₁) : Leaves clean (x >>= f) w P := by
  obtain ⟨h₁, hh, hq⟩ := hx w hw
  unfold Leaves
  rw [outcome_bind]
  rcases ho : outcome x w with ⟨r, w₁⟩
  rw [ho] at hh hq
  cases r with
  | error e => exact ⟨h₁, hh.toStored, he _ _ hq⟩
  | ok a => exact hf a w₁ h₁ hh hq

/-- Maintenance first, in the same transaction. -/
lemma maintained {P : Except Error α → List Snapshot → Prop}
    {R : List Snapshot → List Snapshot → Prop} {y : StoreM Unit} {g : Unit → StoreM α}
    (hw : Holds true clean w h) (hy : Runs (Holds true clean) y h (Maintains R clean h))
    (hg : ∀ w₁ h₁, Holds true clean w₁ h₁ → R h h₁ → Leaves clean (g ()) w₁ P)
    (he : ∀ e h₁, clean = false → e.storage → h₁ = h ∨ R h h₁ → P (.error e) h₁) :
    Leaves clean (y >>= g) w P := by
  refine bind hw hy (fun a w₁ h₁ hh hm => ?_) fun e h₁ hm => ?_
  · rcases hm with ⟨-, hm⟩ | ⟨⟨-, e, -, he⟩, -⟩
    · exact hg w₁ h₁ hh hm
    · cases he
  · rcases hm with ⟨hm, -⟩ | ⟨⟨hcl, e', he', hf⟩, hm⟩
    · cases hm
    · cases hf
      exact he e h₁ hcl he' hm

/-- A last body: its write is the commit, whatever it leaves in memory. -/
lemma perform {P : Except Error α → List Snapshot → Prop}
    {body : Snapshot → Except Error (Final α)} (hw : Holds true clean w h)
    (hP : ∀ r h', Performed clean h (body (latest h)) r h' → P r h') :
    Leaves clean (Store.perform c body) w P := by
  obtain ⟨h', hp, hst, -, -⟩ := Store.perform_spec c body hw
  exact ⟨h', hst, hP _ _ hp⟩

lemma transaction {P : Except Error α → List Snapshot → Prop} (hw : Idle clean w h)
    (hx : ∀ w', Holds true clean w' h → Leaves clean x w' P) :
    Leaves clean (Store.transaction x) w P := by
  have hw' : Holds true clean { w with mem := latest h, active := true } h :=
    ⟨⟨hw.files, hw.faults, hw.registry⟩, rfl, rfl⟩
  obtain ⟨h', hst, hp⟩ := hx _ hw'
  unfold Leaves
  rw [Store.outcome_transaction x hw.toStored hw.active]
  exact ⟨h', ⟨hst.files, hst.faults, hst.registry⟩, hp⟩

lemma ofExcept {κ : Type} {P : Except Error α → List Snapshot → Prop} {y : Except Error κ}
    {g : κ → StoreM α} (hw : Stored clean w h) (hg : ∀ k, y = .ok k → Leaves clean (g k) w P)
    (he : ∀ e, y = .error e → P (.error e) h) : Leaves clean (Store.ofExcept y >>= g) w P := by
  unfold Leaves
  rw [Store.ofExcept_bind]
  cases y with
  | error e => exact ⟨h, hw, he e rfl⟩
  | ok k => exact hg k rfl

lemma mem {P : Except Error α → List Snapshot → Prop} {active : Bool} {g : Snapshot → StoreM α}
    (hw : Holds active clean w h) (hg : Leaves clean (g (latest h)) w P) :
    Leaves clean (Store.mem >>= g) w P := by
  unfold Leaves
  rw [outcome_bind, Store.outcome_mem]
  dsimp only
  rw [hw.mem]
  exact hg

end Leaves

lemma Performed.traces {α : Type} {body : Snapshot → Except Error (Final α)}
    {r : Except Error α} (hp : Performed clean h (body (latest h)) r h')
    (hb : ∀ m', Writes (body (latest h)) m' → Wrote c call (latest h) m') :
    Traces c call h h' := by
  generalize hbody : body (latest h) = b at hp hb
  cases hp with
  | error | reply | raise | refused | failed => exact .refl
  | committed s w x r hc hr => exact .single (hb _ ⟨s, w, x, rfl, rfl⟩)

/-- Run in this world, the program leaves a history that the bodies of the call explain. -/
def Tells {α : Type} (c : Ctx) (call : Call) (clean : Bool) (x : StoreM α) (w : World)
    (h : List Snapshot) : Prop := Leaves clean x w fun _ h' => Traces c call h h'

namespace Tells

variable {α β : Type} {x : StoreM α} {f : α → StoreM β}

lemma of_outcome {y : StoreM β} {w' : World} (hx : Tells c call clean y w' h)
    (he : (outcome x w).2 = (outcome y w').2) : Tells c call clean x w h := by
  obtain ⟨h', hst, ht⟩ := hx
  exact ⟨h', by rwa [he], ht⟩

lemma after {h₁ : List Snapshot} (ht : Traces c call h h₁) (hx : Tells c call clean x w h₁) :
    Tells c call clean x w h := Leaves.conseq hx fun _ _ => ht.trans

lemma perform {body : Snapshot → Except Error (Final α)} (hw : Holds true clean w h)
    (hb : ∀ m', Writes (body (latest h)) m' → Wrote c call (latest h) m') :
    Tells c call clean (Store.perform c body) w h := by
  exact Leaves.perform hw fun r h' hp => hp.traces hb

/-- Maintenance first, in the same transaction. -/
lemma maintained {R : List Snapshot → List Snapshot → Prop} {y : StoreM Unit}
    {g : Unit → StoreM α} (hw : Holds true clean w h)
    (hy : Runs (Holds true clean) y h (Maintains R clean h))
    (hR : ∀ h₁, R h h₁ → Traces c call h h₁)
    (hg : ∀ w₁ h₁, Holds true clean w₁ h₁ → R h h₁ → Tells c call clean (g ()) w₁ h₁) :
    Tells c call clean (y >>= g) w h := by
  refine Leaves.maintained hw hy (fun w₁ h₁ hw₁ hm => ?_) fun e h₁ _ _ hm => ?_
  · exact after (hR h₁ hm) (hg w₁ h₁ hw₁ hm)
  · rcases hm with rfl | hm
    · exact .refl
    · exact hR h₁ hm

/-- One call after the other: the first leaves the process between two transactions. -/
lemma next {y : StoreM Unit} {g : Unit → StoreM Unit} (hy : Tells c call clean y w h)
    (hidle : ∃ h₁, Idle clean (outcome y w).2 h₁)
    (hg : ∀ w₁ h₁, Idle clean w₁ h₁ → Tells c call clean (g ()) w₁ h₁) :
    Tells c call clean (y >>= g) w h := by
  obtain ⟨h₁, hst, ht⟩ := hy
  obtain ⟨h₁', hi⟩ := hidle
  obtain rfl := hst.unique hi.toStored
  unfold Tells Leaves
  rw [outcome_bind]
  rcases ho : outcome y w with ⟨r, w₁⟩
  rw [ho] at hst hi
  cases r with
  | error e => exact ⟨h₁, hst, ht⟩
  | ok u =>
    obtain ⟨h', hst', ht'⟩ := hg w₁ h₁ hi
    exact ⟨h', hst', ht.trans ht'⟩

end Tells

/-! ### The services -/

/-- A call of one body. -/
lemma Store.transaction_tells {α : Type} {body : Snapshot → Except Error (Final α)}
    (hw : Idle clean w h) (hb : ∀ m m', Writes (body m) m' → Wrote c call m m') :
    Tells c call clean (Store.transaction (Store.perform c body)) w h :=
  Leaves.transaction hw fun _ hw' => Tells.perform hw' fun m' => hb (latest h) m'

lemma Owner.init_tells (hcall : call = .ownerInit ∨ call = .start) (hw : Idle clean w h) :
    Tells c call clean (Owner.init c) w h := by
  refine Leaves.transaction hw fun w' hw' => ?_
  have hsound : Commits c call (latest h) (initializeBody c (latest h)) := initializeBody_commits
  have ht : ∀ r h₁, Performed clean h (initializeBody c (latest h)) r h₁ →
      Traces c call h h₁ := fun r h₁ hp => hp.traces fun m' => .ownerInit hcall
  refine Leaves.bind hw' (Store.perform_runs c fun _ => hsound.sound) (fun _ w₁ h₁ hw₁ hp => ?_)
    fun e h₁ hp => ht _ _ hp
  exact Tells.after (ht _ _ hp) (Tells.perform hw₁ fun m' => .bindOrigin hcall)

lemma Lifecycle.sweep_tells {call : Vauxr.Call} (hw : Idle clean w h) :
    Tells c call clean (sweep c) w h := by
  obtain ⟨h', hh, hm⟩ := sweep_spec c hw
  refine ⟨h', hh.toStored, ?_⟩
  rcases hm with ⟨-, hm⟩ | ⟨-, rfl | hm⟩
  · exact hm.traces
  · exact .refl
  · exact hm.traces

lemma Integration.sweep_tells {call : Vauxr.Call} (hw : Idle clean w h) :
    Tells c call clean (sweep c) w h := by
  obtain ⟨h', hh, hm⟩ := sweep_spec c hw
  refine ⟨h', hh.toStored, ?_⟩
  rcases hm with ⟨-, hm⟩ | ⟨-, rfl | hm⟩
  · exact hm.traces
  · exact .refl
  · exact hm.traces

lemma Enrollment.init_tells (hw : Idle clean w h) : Tells c .start clean (init c) w h :=
  Leaves.transaction hw fun _ hw' =>
    Tells.maintained hw' (mark_runs c clean h) (fun _ hm => hm.traces) fun _ _ hw₁ _ =>
      Tells.perform hw₁ fun _ => .bindConsumed rfl

lemma Enrollment.rateLimit_tells (hw : Idle clean w h) :
    Tells c .enrollmentRate clean (rateLimit c) w h :=
  Leaves.transaction hw fun _ hw' =>
    Tells.maintained hw' (mark_runs c clean h) (fun _ hm => hm.traces) fun _ _ hw₁ _ =>
      Tells.perform hw₁ fun _ => .enrollmentRate rfl

lemma Enrollment.execute_tells (action : String) (body : Json) (resolve : Resolve)
    (hw : Idle clean w h) :
    Tells c (.enrollment action body resolve) clean (execute c action body resolve) w h := by
  refine Leaves.ofExcept hw.toStored (fun k hk => Leaves.transaction hw fun w' hw' => ?_)
    fun e _ => .refl
  refine Tells.maintained hw' (Lifecycle.sweep_runs c clean h) (fun _ hs => hs.traces)
    fun w₁ h₁ hw₁ _ => ?_
  exact Tells.maintained hw₁ (mark_runs c clean h₁) (fun _ hm => hm.traces) fun w₂ h₂ hw₂ _ =>
    Tells.perform hw₂ fun m' => .enrollment action body resolve k rfl hk

lemma Lifecycle.execute_tells (action : String) (body : Json) (resolve : Resolve)
    (hw : Idle clean w h) :
    Tells c (.lifecycle action body resolve) clean (execute c action body resolve) w h := by
  refine Leaves.ofExcept hw.toStored (fun k hk => Leaves.transaction hw fun w' hw' => ?_)
    fun e _ => .refl
  exact Tells.maintained hw' (sweep_runs c clean h) (fun _ hs => hs.traces) fun w₁ h₁ hw₁ _ =>
    Tells.perform hw₁ fun m' => .lifecycle action body resolve k rfl hk

namespace Integration

lemma request_tells {action : String} {body : Json} {resolve : Resolve} {client : Client}
    {origin name expiresAt : Json}
    (hk : parse action body = .ok (.request client origin name expiresAt))
    (hw : Holds true clean w h) :
    Tells c (.integration action body resolve) clean (request c client origin name expiresAt) w
      h := by
  refine Leaves.ofExcept hw.toStored (fun terms hterms => Leaves.mem hw ?_) fun e _ => .refl
  split
  · next row hrow => exact ⟨h, by rw [Store.outcome_ofExcept]; exact hw.toStored, .refl⟩
  · next hnone =>
    rw [stateOf_requests] at hnone
    refine Leaves.ofExcept hw.toStored (fun u hadm => ?_) fun e _ => .refl
    refine Tells.maintained hw (Enrollment.mark_runs c clean h) (fun _ hm => hm.traces)
      fun w₁ h₁ hw₁ hm => ?_
    -- marking leaves the integrations and the owner alone
    have hsame : (latest h₁).integration = (latest h).integration ∧
        (latest h₁).owner = (latest h).owner := by
      cases hm <;> exact ⟨rfl, rfl⟩
    have hnone₁ : (latest h₁).agents.get? client.requestId = none := by
      unfold Snapshot.agents
      rw [hsame.1]
      exact hnone
    have hadm₁ := (admission_congr (c := c) hsame.1 hsame.2 terms).trans hadm
    exact Tells.perform hw₁ fun m' =>
      .agentCreate action body resolve client origin name expiresAt terms rfl hk hterms hnone₁
        hadm₁

lemma ack_tells {action : String} {body : Json} {resolve : Resolve} {client : Client}
    {credential saved : Json} (hk : parse action body = .ok (.ack client credential saved))
    (hw : Holds true clean w h) :
    Tells c (.integration action body resolve) clean (ack c client credential saved) w h := by
  refine Leaves.mem hw (Leaves.ofExcept hw.toStored (fun k hack => ?_) fun e _ => .refl)
  obtain ⟨row, r⟩ := k
  have hvalid := agentOf_valid (c := c) hw.toStored.valid_latest (acknowledged_row hack)
  refine Leaves.bind hw (Store.framed_runs (Store.framed_registerAgent c hvalid) true clean h)
    (fun _ w₁ h₁ hw₁ hq => ?_) fun _ h₁ hq => ?_
  · obtain ⟨rfl, -⟩ := hq
    exact Tells.perform hw₁ fun m' =>
      .agentComplete action body resolve client credential saved row r rfl hk hack
  · obtain ⟨rfl, -⟩ := hq
    exact .refl

lemma execute_tells (action : String) (body : Json) (resolve : Resolve) (hw : Idle clean w h) :
    Tells c (.integration action body resolve) clean (execute c action body resolve) w h := by
  refine Leaves.ofExcept hw.toStored (fun k hk => Leaves.transaction hw fun w' hw' => ?_)
    fun e _ => .refl
  refine Tells.maintained hw' (sweep_runs c clean h) (fun _ hs => hs.traces)
    fun w₁ h₁ hw₁ _ => ?_
  have hone : ∀ b, bodyOf c resolve k = some b →
      Tells c (.integration action body resolve) clean (Store.perform c b) w₁ h₁ := fun b hb =>
    Tells.perform hw₁ fun m' => .integration action body resolve k b rfl hk hb
  cases k with
  | request client origin name expiresAt => exact request_tells hk hw₁
  | ack client credential saved => exact ack_tells hk hw₁
  | status | deliver | cancel | list | approve | deny => exact hone _ rfl

end Integration

namespace System

lemma startHooks_tells (hw : Idle clean w h) : Tells c .start clean (startHooks c) w h := by
  have hsweep : ∃ h₁, Idle clean (outcome (Lifecycle.sweep c) w).2 h₁ := by
    obtain ⟨h₁, hh, -⟩ := Lifecycle.sweep_spec c hw
    exact ⟨h₁, hh.idle⟩
  refine Tells.next (Lifecycle.sweep_tells hw) hsweep fun w₁ h₁ hw₁ => ?_
  have howner : ∃ h₂, Idle clean (outcome (Owner.init c) w₁).2 h₂ := by
    obtain ⟨h₂, hh, -⟩ := Owner.init_extends (c := c) .start hw₁
    exact ⟨h₂, hh.idle⟩
  refine Tells.next (Owner.init_tells (Or.inr rfl) hw₁) howner fun w₂ h₂ hw₂ => ?_
  have hinit : ∃ h₃, Idle clean (outcome (Enrollment.init c) w₂).2 h₃ := by
    obtain ⟨h₃, hh, -⟩ := Enrollment.init_hook (c := c) .start w₂ h₂ hw₂
    exact ⟨h₃, hh⟩
  refine Tells.next (Enrollment.init_tells hw₂) hinit fun w₃ h₃ hw₃ => ?_
  have hagents : ∃ h₄, Idle clean (outcome (Integration.sweep c) w₃).2 h₄ := by
    obtain ⟨h₄, hh, -⟩ := Integration.sweep_spec c hw₃
    exact ⟨h₄, hh.idle⟩
  refine Tells.next (Integration.sweep_tells hw₃) hagents fun w₄ h₄ hw₄ => ?_
  exact ⟨h₄, hw₄.toStored.frame (Store.framed_loadAgents c w₄).1, .refl⟩

lemma start_tells (hw : Idle clean w h) : Tells c .start clean (start c) w h := by
  have hw' : Idle clean { w with registry := { w.registry with loaded := none } } h :=
    ⟨⟨hw.files, hw.faults, hw.registry⟩, hw.active⟩
  have hl := load_idle hw'
  obtain ⟨h', hst, ht⟩ := startHooks_tells (c := c) hl.idle
  unfold Tells Leaves start
  rw [outcome_bind, outcome_modify]
  dsimp only
  rw [outcome_bind, Store.outcome_load hw'.toStored]
  dsimp only
  rw [outcome_tryCatch]
  rw [Store.outcome_load hw'.toStored] at hst
  rcases ho : outcome (startHooks c) _ with ⟨r, w₁⟩
  rw [ho] at hst
  cases r with
  | ok u => exact ⟨h', hst, ht⟩
  | error e =>
    refine ⟨h', ?_, ht⟩
    dsimp only
    rw [outcome_bind, Store.outcome_load hst]
    exact ⟨hst.files, hst.faults, hst.registry⟩

/-- **Every commit of a service** is written by a body of the call. -/
theorem exec_tells (hcall : call.service = true) (hw : Idle clean w h) :
    Tells c call clean (exec c call) w h := by
  have hpure : ∀ {α : Type} {x : StoreM α} {f : α → Reply}, Tells c call clean x w h →
      Tells c call clean (x >>= fun a => pure (f a)) w h := by
    intro α x f hx
    exact hx.of_outcome (by rw [outcome_bind_pure])
  cases call with
  | replace | stage => cases hcall
  | console recover => exact hpure (Store.transaction_tells hw fun _ _ => .console recover rfl)
  | ownerRate => exact hpure (Store.transaction_tells hw fun _ _ => .ownerRate rfl)
  | claim code => exact hpure (Store.transaction_tells hw fun _ _ => .claim code rfl)
  | acknowledge acknowledgement saved =>
    exact hpure (Store.transaction_tells hw fun _ _ => .acknowledge acknowledgement saved rfl)
  | login token => exact hpure (Store.transaction_tells hw fun _ _ => .login token rfl)
  | session cookie =>
    refine hpure (Store.transaction_tells hw fun m m' hb => ?_)
    obtain ⟨s, w, x, hb, -⟩ := hb
    cases hb
  | logout cookie => exact hpure (Store.transaction_tells hw fun _ _ => .logout cookie rfl)
  | ownerInit => exact hpure (Owner.init_tells (Or.inl rfl) hw)
  | enrollment action body resolve => exact hpure (Enrollment.execute_tells action body resolve hw)
  | enrollmentRate => exact hpure (Enrollment.rateLimit_tells hw)
  | lifecycle action body resolve => exact hpure (Lifecycle.execute_tells action body resolve hw)
  | lifecycleSweep => exact hpure (Lifecycle.sweep_tells hw)
  | integration action body resolve =>
    exact hpure (Integration.execute_tells action body resolve hw)
  | integrationSweep => exact hpure (Integration.sweep_tells hw)
  | start => exact hpure (start_tells hw)
  | reload => exact hpure ⟨h, (load_idle hw).toStored, .refl⟩

end System

/-- The commits of one step of a run, body by body. -/
theorem worldAt_traces {σ : ℕ → Step} (hσ : Services σ) (n : ℕ) :
    Traces (σ n).ctx (σ n).call (worldAt σ n).committed (worldAt σ (n + 1)).committed := by
  have hw := (worldAt_rests hσ n).faults (σ n).faults
  obtain ⟨h', hst, ht⟩ := System.exec_tells (c := (σ n).ctx) (hσ n) hw.idle
  have hst' : Stored false (worldAt σ (n + 1)) h' := hst
  rw [hst'.committed]
  exact ht

end Vauxr
