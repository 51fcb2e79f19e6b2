import Vauxr.Snapshot

/-!
What a valid snapshot guarantees about its rows, one lemma for each table.
-/

namespace Vauxr

open Lib

/-! ### The lifecycle namespace and the reserve, on a snapshot -/

namespace Snapshot

structure LifecycleValid (m : Snapshot) : Prop where
  length : m.blocked.length ≤ Lifecycle.tombstoneLimit
  nodup : m.blocked.Nodup
  hex : ∀ v ∈ m.blocked, hexString v 64 = true
  operations : m.operations.size ≤ Lifecycle.operationLimit
  bindings : m.bindings.size ≤ Lifecycle.limit
  recovery : m.recovery.size ≤ Lifecycle.limit
  row : ∀ id row, m.operations.get? id = some row → Lifecycle.validateOperation id row = true
  binding : ∀ id b, m.bindings.get? id = some b → hexString b.publicKey 64 = true ∧
    idString id = true
  pointer : ∀ subject p, m.recovery.get? subject = some p → (m.bindings.get? subject).isSome ∧
    (p.requestId = "" ∨ hexString p.requestId 32 = true) ∧
    ∃ op, m.operations.get? p.operationId = some op ∧ op.subject = subject ∧
      op.role = .device ∧ op.action = .recover

lemma validateLifecycle_iff {m : Snapshot} :
    validateLifecycle m.lifecycle = true ↔ m.LifecycleValid := by
  cases hl : m.lifecycle with
  | none =>
    have hb : m.blocked = [] := by simp [blocked, hl]
    have ho : m.operations = Dict.empty := by simp [Snapshot.operations, hl]
    have hbi : m.bindings = Dict.empty := by simp [Snapshot.bindings, hl]
    have hr : m.recovery = Dict.empty := by simp [Snapshot.recovery, hl]
    refine ⟨fun _ => ?_, fun _ => rfl⟩
    constructor <;> simp [hb, ho, hbi, hr]
  | some s =>
    have hb : m.blocked = s.blocked := by simp [blocked, hl]
    have ho : m.operations = s.operations := by simp [Snapshot.operations, hl]
    have hbi : m.bindings = s.bindings := by simp [Snapshot.bindings, hl]
    have hr : m.recovery = s.recovery := by simp [Snapshot.recovery, hl]
    have hrow : ∀ subject p, Lifecycle.validateRecovery s subject p = true ↔
        (s.bindings.get? subject).isSome ∧
          (p.requestId = "" ∨ hexString p.requestId 32 = true) ∧
          ∃ op, s.operations.get? p.operationId = some op ∧ op.subject = subject ∧
            op.role = .device ∧ op.action = .recover := by
      intro subject p
      unfold Lifecycle.validateRecovery
      cases s.operations.get? p.operationId <;> simp [and_assoc]
    simp only [validateLifecycle, Bool.and_eq_true, decide_eq_true_eq, List.all_eq_true,
      Prod.forall, Dict.mem_entries, hrow]
    constructor
    · rintro ⟨⟨⟨⟨⟨⟨⟨⟨h1, h2⟩, h3⟩, h4⟩, h5⟩, h6⟩, h7⟩, h8⟩, h9⟩
      constructor <;> simpa only [hb, ho, hbi, hr]
    · rintro ⟨h1, h2, h3, h4, h5, h6, h7, h8, h9⟩
      simp only [hb, ho, hbi, hr] at h1 h2 h3 h4 h5 h6 h7 h8 h9
      exact ⟨⟨⟨⟨⟨⟨⟨⟨h1, h2⟩, h3⟩, h4⟩, h5⟩, h6⟩, h7⟩, h8⟩, h9⟩

/-- The verifiers that can still be retired. -/
def unblocked (m : Snapshot) : List String := m.digests.dedup.filter (· ∉ m.blocked)

/-- The number of operations that have not ended. -/
def unfinished (m : Snapshot) : ℕ := m.operations.values.countP fun row => !row.state.terminal

structure Room (m : Snapshot) : Prop where
  records : m.records.length ≤ Lifecycle.limit
  tombstones : (m.blocked ++ m.digests).dedup.length ≤ Lifecycle.tombstoneLimit
  reserve : m.operations.size + m.unblocked.length + m.unfinished ≤ Lifecycle.operationLimit

lemma hasCapacity_iff {m : Snapshot} : hasCapacity m.lifecycle m.digests = true ↔ m.Room := by
  have hlen : m.digests.length = m.records.length := by simp [digests]
  simp only [hasCapacity, Bool.and_eq_true, decide_eq_true_eq, hlen]
  exact ⟨fun ⟨⟨h1, h2⟩, h3⟩ => ⟨h1, h2, h3⟩, fun ⟨h1, h2, h3⟩ => ⟨⟨h1, h2⟩, h3⟩⟩

end Snapshot

namespace Snapshot.Valid

variable {m : Snapshot} (hm : m.Valid)

include hm

/-! ### Records -/

lemma ids_nodup : (m.records.map (·.id)).Nodup := by
  have h := hm.credentials
  simp only [ambiguousCredentials, Bool.or_eq_false_iff, Bool.not_eq_false',
    decide_eq_true_eq] at h
  exact h.1.1

lemma role_of_subject {r r' : Credential} (h : r ∈ m.records) (h' : r' ∈ m.records)
    (he : r.subject = r'.subject) : r.role = r'.role := by
  have hp := hm.principals
  simp only [ambiguousPrincipals, List.any_eq_false, Bool.not_eq_true, Bool.and_eq_false_iff,
    beq_eq_false_iff_ne, decide_eq_false_iff_not, not_not] at hp
  rcases hp r h r' h' with hp | hp
  · exact absurd he hp
  · exact hp

/-! ### Tables -/

lemma request {id : String} {row : Enrollment.Row} (h : m.requests.get? id = some row) :
    ∃ e, m.enrollment = some e ∧ e.requests.get? id = some row ∧
      Enrollment.validateRow e.serverId id row = true := by
  have hv := hm.enrollment
  unfold requests at h
  cases he : m.enrollment with
  | none => simp [he] at h
  | some e =>
    rw [he] at hv h
    simp only [validateEnrollment, Bool.and_eq_true, List.all_eq_true] at hv
    exact ⟨e, rfl, h, hv.2 (id, row) (Dict.mem_entries.mpr h)⟩

lemma lifecycleValid : m.LifecycleValid := Snapshot.validateLifecycle_iff.mp hm.lifecycle

lemma binding {id : String} {row : Lifecycle.Binding} (h : m.bindings.get? id = some row) :
    hexString row.publicKey 64 = true ∧ idString id = true :=
  hm.lifecycleValid.binding id row h

/-- A recovery pointer names a recovery of its own subject. -/
lemma pointer {subject : String} {p : Lifecycle.Recovery} (h : m.recovery.get? subject = some p) :
    ∃ op, m.operations.get? p.operationId = some op ∧ op.subject = subject ∧
      op.role = .device ∧ op.action = .recover :=
  (hm.lifecycleValid.pointer subject p h).2.2

lemma agent {id : String} {row : Integration.Row} (h : m.agents.get? id = some row) :
    Integration.validateRow id row = true := by
  have hv := hm.integration
  unfold agents at h
  cases he : m.integration with
  | none => simp [he] at h
  | some e =>
    rw [he] at hv h
    simp only [validateIntegration, Bool.and_eq_true, List.all_eq_true] at hv
    exact hv.2 (id, row) (Dict.mem_entries.mpr h)

/-! ### Rows -/

lemma request_id {id : String} {row : Enrollment.Row} (h : m.requests.get? id = some row) :
    row.requestId = id := by
  obtain ⟨e, -, -, hv⟩ := hm.request h
  simp only [Enrollment.validateRow, Bool.and_eq_true, beq_iff_eq] at hv
  tauto

lemma agent_request_id {id : String} {row : Integration.Row} (h : m.agents.get? id = some row) :
    row.requestId = id ∧ row.agentId = "int_" ++ id := by
  have := hm.agent h
  simp only [Integration.validateRow, Bool.and_eq_true, beq_iff_eq] at this
  tauto

lemma room : m.Room := Snapshot.hasCapacity_iff.mp hm.capacity

end Snapshot.Valid

end Vauxr
