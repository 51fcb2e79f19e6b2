import Vauxr.Runs

/-!
One live operation for each subject: at most one operation of a subject has not ended, a recovery
that has not ended is the one the pointer of its subject names, and after a sweep every pointer
names one of those.
-/

namespace Vauxr

open Lib

/-! ### What no move changes -/

namespace Lifecycle

variable {c : Ctx} {call : Vauxr.Call} {m m' : Snapshot} {id : String} {row row' : Row}

/-- The fields of an operation that are written once. -/
structure SameOperation (row row' : Row) : Prop where
  operationId : row'.operationId = row.operationId
  role : row'.role = row.role
  subject : row'.subject = row.subject
  action : row'.action = row.action
  oldIds : row'.oldIds = row.oldIds
  expiresAt : row'.expiresAt = row.expiresAt
  ownerGeneration : row'.ownerGeneration = row.ownerGeneration
  origin : row'.origin = row.origin

lemma sameOperation_sweptRow (c : Ctx) (m : Snapshot) (row : Row) :
    SameOperation row (sweptRow c m row) := by
  unfold sweptRow
  split
  · exact ⟨rfl, rfl, rfl, rfl, rfl, rfl, rfl, rfl⟩
  · split
    · exact ⟨rfl, rfl, rfl, rfl, rfl, rfl, rfl, rfl⟩
    · split <;> exact ⟨rfl, rfl, rfl, rfl, rfl, rfl, rfl, rfl⟩

lemma Moves.sameOperation (h : Moves c call m m' id row row') : SameOperation row row' := by
  cases h with
  | swept => exact sameOperation_sweptRow c m row
  | same | polled | delivered | acked | ended | reopened | redelivered =>
    exact ⟨rfl, rfl, rfl, rfl, rfl, rfl, rfl, rfl⟩

/-- An operation that has ended does not move. -/
lemma Moves.eq_of_terminal (h : Moves c call m m' id row row') (ht : row.state.terminal = true) :
    row' = row := by
  cases h with
  | same => rfl
  | swept hl => simp [lapses, ht] at hl
  | polled _ _ _ hs | delivered _ _ _ _ _ hs | acked _ _ _ _ _ hs =>
    rw [hs] at ht
    cases ht
  | ended _ _ _ _ _ _ _ _ hs | reopened _ _ _ _ _ _ _ _ _ _ hs
  | redelivered _ _ _ _ _ _ _ _ _ _ _ hs =>
    rw [hs] at ht
    cases ht

lemma Moves.live (h : Moves c call m m' id row row') (ht : row'.state.terminal = false) :
    row.state.terminal = false := by
  rw [← Bool.not_eq_true]
  intro htrue
  rw [h.eq_of_terminal htrue, htrue] at ht
  cases ht

lemma get?_livePointers {operations : Dict String Row} {recovery : Dict String Recovery}
    {subject : String} {p : Recovery} :
    (livePointers operations recovery).get? subject = some p ↔
      recovery.get? subject = some p ∧
        ∃ op, operations.get? p.operationId = some op ∧ op.state.terminal = false := by
  rw [livePointers, Dict.get?_filter_some, Option.any_eq_true]
  simp

lemma admission_rotate {role : Role} {subject : String}
    (h : admission c m .rotate role subject = .ok ()) {op : Row}
    (hop : m.operations.get? id = some op) (hs : op.subject = subject) :
    op.state.terminal = true := by
  unfold admission at h
  simp only [bind_eq_ok, refuse_eq_ok, exists_const, stateOf_operations] at h
  have hactive := h.2.2.1
  simp only [decide_true, Bool.true_and, Bool.or_eq_false_iff, List.any_eq_false,
    Bool.not_eq_true] at hactive
  have := hactive.1 op (Dict.get?_mem_values hop)
  simpa [isActive, hs] using this

end Lifecycle

/-! ### Pointers follow live operations -/

namespace Effect

open Lifecycle

variable {c : Ctx} {call : Call} {m m' : Snapshot}

/-- A pointer stays as long as the operation it names lives. -/
lemma pointer (h : Effect c call m m') (hm : m.Valid) {subject : String} {p : Recovery}
    {op : Row} (hp : m.recovery.get? subject = some p)
    (hop : m'.operations.get? p.operationId = some op) (hs : op.subject = subject)
    (ht : op.state.terminal = false) :
    ∃ p', m'.recovery.get? subject = some p' ∧ p'.operationId = p.operationId := by
  have hne : ∀ {s id : String} {new : Row},
      m'.operations = (endActive (stateOf m) s).operations.set id new →
      m.operations.get? id = none → s ≠ subject := by
    rintro s id new hops hnone rfl
    obtain ⟨old, hold, hsub, -, -⟩ := hm.pointer hp
    have hid : id ≠ p.operationId := by
      rintro rfl
      rw [hold] at hnone
      cases hnone
    rw [hops, Dict.get?_set_ne hid, get?_endActive, hold] at hop
    cases hop
    dsimp only at ht
    split at ht
    · cases ht
    · next ha => exact ha (isActive_iff.mpr ⟨hsub, ht⟩)
  cases h with
  | same _ hr | retire _ _ hr | enable _ _ hr | issue _ _ _ hr | poll _ _ _ _ _ _ _ _ hr
  | deliver _ _ _ _ _ _ _ _ _ _ _ _ _ hr | ack _ _ _ _ _ _ _ _ _ _ _ _ hr
  | rotate _ _ _ _ _ _ _ _ _ _ _ hr | replace _ _ _ _ _ _ _ _ _ _ _ _ _ hr =>
    exact ⟨p, hr ▸ hp, rfl⟩
  | sweep hops hr => exact ⟨p, hr ▸ get?_livePointers.mpr ⟨hp, op, hop, ht⟩, rfl⟩
  | revoke _ _ _ _ row _ _ _ hnone _ _ hops hr =>
    rw [hr, Dict.get?_erase_ne (hne hops hnone)]
    exact ⟨p, hp, rfl⟩
  | recover _ _ _ _ row _ _ _ hnone _ _ hops hr =>
    rw [hr, Dict.get?_set_ne (hne hops hnone), Dict.get?_erase_ne (hne hops hnone)]
    exact ⟨p, hp, rfl⟩
  | associate _ _ _ _ row p' _ _ _ hp' _ _ hr =>
    rw [hr, Dict.get?_set]
    split
    · next he =>
      obtain rfl := Option.some.inj (hp.symm.trans (he ▸ hp'))
      exact ⟨_, rfl, rfl⟩
    · exact ⟨p, hp, rfl⟩

end Effect

/-! ### The invariant -/

/-- At most one operation of a subject lives, and a live recovery is the one that is pointed to. -/
structure OneLive (m : Snapshot) : Prop where
  unique : ∀ id id' op op', m.operations.get? id = some op → m.operations.get? id' = some op' →
    op.state.terminal = false → op'.state.terminal = false → op.subject = op'.subject → id = id'
  pointed : ∀ id op, m.operations.get? id = some op → op.state.terminal = false →
    op.action = .recover → ∃ p, m.recovery.get? op.subject = some p ∧ p.operationId = id

namespace OneLive

open Lifecycle

variable {c : Ctx} {call : Call} {m m' : Snapshot}

lemma empty : OneLive Snapshot.empty :=
  ⟨fun _ _ _ _ h => (nomatch h), fun _ _ h => (nomatch h)⟩

/-- A new operation is the only live one of its subject. -/
lemma created_unique {id id' : String} {row op : Row} (hc : Created c call m m' id row)
    (hrow : row.state.terminal = false) (hop : m'.operations.get? id' = some op)
    (ht : op.state.terminal = false) (hs : op.subject = row.subject) : id' = id := by
  by_contra hne
  cases hc with
  | rotate _ hadm hnew hops =>
    rw [hops, Dict.get?_set_ne (Ne.symm hne)] at hop
    rw [admission_rotate hadm hop hs] at ht
    cases ht
  | revoke row => cases hrow
  | recover row hadm hnew hops =>
    rw [hops, Dict.get?_set_ne (Ne.symm hne), get?_endActive, Option.map_eq_some_iff] at hop
    obtain ⟨old, -, rfl⟩ := hop
    split at ht
    · cases ht
    · next ha =>
      rw [if_neg ha] at hs
      exact ha (isActive_iff.mpr ⟨hs, ht⟩)

lemma step (hm : m.Valid) (h : Effect c call m m') (hi : OneLive m) : OneLive m' where
  unique := by
    intro id id' op op' hop hop' ht ht' hs
    rcases h.operation hm hop with ⟨old, hold, hmove⟩ | ⟨-, hnew⟩
    · rcases h.operation hm hop' with ⟨old', hold', hmove'⟩ | ⟨-, hnew'⟩
      · refine hi.unique id id' old old' hold hold' (hmove.live ht) (hmove'.live ht') ?_
        rw [← hmove.sameOperation.subject, hs, hmove'.sameOperation.subject]
      · exact created_unique hnew' ht' hop ht hs
    · exact (created_unique hnew ht hop' ht' hs.symm).symm
  pointed := by
    intro id op hop ht ha
    rcases h.operation hm hop with ⟨old, hold, hmove⟩ | ⟨-, hnew⟩
    · obtain ⟨p, hp, rfl⟩ := hi.pointed id old hold (hmove.live ht)
        (hmove.sameOperation.action ▸ ha)
      rw [hmove.sameOperation.subject]
      exact h.pointer hm hp hop hmove.sameOperation.subject ht
    · cases hnew with
      | rotate _ _ hnew =>
        rw [(newOperation_eq_ok hnew).action] at ha
        cases ha
      | revoke row => cases ht
      | recover row _ _ _ hp => exact ⟨_, hp, rfl⟩

lemma stable : Stable OneLive := fun _ _ _ _ h hi => hi.step h.before h.effect

end OneLive

/-- After a sweep every pointer names a live recovery of its own subject. -/
def PointersLive (m : Snapshot) : Prop :=
  ∀ subject p, m.recovery.get? subject = some p → ∃ op,
    m.operations.get? p.operationId = some op ∧ op.state.terminal = false ∧
      op.action = .recover ∧ op.subject = subject

lemma Lifecycle.Settled.pointersLive {c : Ctx} {m : Snapshot} (hs : Settled c m) (hm : m.Valid) :
    PointersLive m := by
  intro subject p hp
  obtain ⟨op, hop, hsub, -, ha⟩ := hm.pointer hp
  obtain ⟨op', hop', ht⟩ := hs.pointers subject p hp
  obtain rfl := Option.some.inj (hop.symm.trans hop')
  exact ⟨op, hop, ht, ha, hsub⟩

/-- A sweep that returns leaves nothing to sweep. -/
lemma Step.sweep_settled {w : World} (hw : w.Rests) {s : Step} (hcall : s.call = .lifecycleSweep)
    (hr : s.result w = .ok .unit) : Lifecycle.Settled s.ctx (s.next w).mem := by
  obtain ⟨h', hh, hm⟩ := Lifecycle.sweep_spec s.ctx (hw.faults s.faults).idle
  simp only [Step.result, Step.next, hcall, System.exec, System.outcome_bind_pure] at hr ⊢
  rw [hh.mem]
  rcases hm with ⟨-, hm⟩ | ⟨⟨-, e, -, he⟩, -⟩
  · exact hm.settles
  · rw [he] at hr
    cases hr

/-- **One live operation**: in every state that the services reach, in memory and in every
snapshot committed so far, a subject has at most one live operation and a live recovery is pointed
to; and once a sweep has returned every pointer names a live recovery of its own subject. -/
theorem one_live_operation (σ : ServiceRun) (n : ℕ) :
    OneLive (worldAt σ.1 n).mem ∧ (∀ s ∈ (worldAt σ.1 n).committed, OneLive s) ∧
      ((σ.1 n).call = .lifecycleSweep → (σ.1 n).result (worldAt σ.1 n) = .ok .unit →
        PointersLive (worldAt σ.1 (n + 1)).mem) := by
  obtain ⟨hm, hc⟩ := worldAt_stable OneLive.stable OneLive.empty σ.2 n
  refine ⟨hm, hc, fun hcall hr => ?_⟩
  have hset := Step.sweep_settled (worldAt_rests σ.2 n) hcall hr
  exact hset.pointersLive (worldAt_valid σ.2 (n + 1))

end Vauxr
