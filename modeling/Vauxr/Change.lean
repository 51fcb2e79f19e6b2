import Vauxr.System

/-!
What one commit changes. Every service commits a snapshot that differs from the one before it
in one of the ways listed here; the relation keeps what was checked on the way, and hides how
the services are organized.
-/

namespace Vauxr

open Lib

/-! ### Rewriting one row of a snapshot -/

namespace Enrollment

lemma stateOf_requests (c : Ctx) (m : Snapshot) : (stateOf c m).requests = m.requests := by
  unfold stateOf Snapshot.requests
  cases m.enrollment <;> rfl

/-- A row after a failed proof. -/
def charged (row : Row) : Row :=
  let attempts := min 5 (row.attempts + 1)
  let row := { row with attempts }
  if attempts = 5 then row.close .failed else row

/-- A row that lost its authority, as `_state` persists it. -/
def markedRow (c : Ctx) (m : Snapshot) (row : Row) : Row :=
  if !row.state.terminal && status c m row = .stale then row.close .stale else row

/-- What remains of the rows when a new request comes. -/
def unexpired (c : Ctx) (m : Snapshot) : Dict String Row :=
  m.requests.filter fun _ row => ⌊c.now⌋ < row.expiresAt

end Enrollment

lemma Integration.stateOf_requests (m : Snapshot) : (Integration.stateOf m).requests = m.agents := by
  unfold Integration.stateOf Snapshot.agents
  cases m.integration <;> rfl

namespace Snapshot

def putRequest (c : Ctx) (m : Snapshot) (row : Enrollment.Row) : Snapshot :=
  { m with enrollment := some ((Enrollment.stateOf c m).put row.requestId row) }

def putOperation (m : Snapshot) (id : String) (row : Lifecycle.Row) : Snapshot :=
  { m with lifecycle := some ((Lifecycle.stateOf m).put id row) }

def putAgent (m : Snapshot) (row : Integration.Row) : Snapshot :=
  { m with integration := some ((Integration.stateOf m).put row.requestId row) }

/-- The records with the given identifiers blocked and disabled. -/
def retired (m : Snapshot) (ids : List String) : Snapshot :=
  { m with
    records := Lifecycle.disable ids m.records
    lifecycle := some { Lifecycle.stateOf m with
      blocked := Lifecycle.blockedWith m.blocked ids m.records } }

def withRequests (c : Ctx) (m : Snapshot) (requests : Dict String Enrollment.Row) : Snapshot :=
  { m with enrollment := some { Enrollment.stateOf c m with requests } }

section Projections

variable (c : Ctx) (m : Snapshot)

@[simp] lemma putRequest_requests (row : Enrollment.Row) :
    (m.putRequest c row).requests = m.requests.set row.requestId row := by
  show (Enrollment.stateOf c m).requests.set _ _ = _
  rw [Enrollment.stateOf_requests]

@[simp] lemma putOperation_operations (id : String) (row : Lifecycle.Row) :
    (m.putOperation id row).operations = m.operations.set id row := by
  show (Lifecycle.stateOf m).operations.set _ _ = _
  rw [Lifecycle.stateOf_operations]

@[simp] lemma putOperation_blocked (id : String) (row : Lifecycle.Row) :
    (m.putOperation id row).blocked = m.blocked := Lifecycle.stateOf_blocked m

@[simp] lemma putOperation_bindings (id : String) (row : Lifecycle.Row) :
    (m.putOperation id row).bindings = m.bindings := Lifecycle.stateOf_bindings m

@[simp] lemma putOperation_recovery (id : String) (row : Lifecycle.Row) :
    (m.putOperation id row).recovery = m.recovery := Lifecycle.stateOf_recovery m

@[simp] lemma putAgent_agents (row : Integration.Row) :
    (m.putAgent row).agents = m.agents.set row.requestId row := by
  show (Integration.stateOf m).requests.set _ _ = _
  rw [Integration.stateOf_requests]

@[simp] lemma retired_operations (ids : List String) : (m.retired ids).operations = m.operations :=
  Lifecycle.stateOf_operations m

@[simp] lemma retired_bindings (ids : List String) : (m.retired ids).bindings = m.bindings :=
  Lifecycle.stateOf_bindings m

@[simp] lemma retired_recovery (ids : List String) : (m.retired ids).recovery = m.recovery :=
  Lifecycle.stateOf_recovery m

lemma retired_blocks (ids : List String) : Lifecycle.Blocks m ids (m.retired ids).blocked :=
  ⟨fun _ => Lifecycle.mem_blockedWith, Lifecycle.nodup_blockedWith _ _ _⟩

end Projections

end Snapshot

/-! ### Changes -/

/-- The step is this enrollment request. -/
def Call.isEnrollment (call : Call) (request : Enrollment.Call) (resolve : Resolve) : Prop :=
  ∃ action body, call = .enrollment action body resolve ∧
    Enrollment.parse action body = .ok request

/-- The step is this lifecycle request, of the principal `p`. -/
def Call.isLifecycle (call : Call) (c : Ctx) (m : Snapshot) (request : Lifecycle.Call)
    (p : Principal) : Prop :=
  ∃ action body resolve, call = .lifecycle action body resolve ∧
    Lifecycle.parse action body = .ok request ∧ Lifecycle.authorize c m resolve = .ok p

/-- The step is this integration request. -/
def Call.isIntegration (call : Call) (request : Integration.Call) (resolve : Resolve) : Prop :=
  ∃ action body, call = .integration action body resolve ∧
    Integration.parse action body = .ok request

/-- A new row for a device, and the operation of its recovery if it is in one. -/
inductive Associates (m : Snapshot) (row : Enrollment.Row) : Option Lifecycle.State → Prop
  | fresh : m.recovery.get? row.deviceId = none → Associates m row m.lifecycle
  | recovering (p : Lifecycle.Recovery) (op : Lifecycle.Row) :
      m.recovery.get? row.deviceId = some p → m.operations.get? p.operationId = some op →
      Associates m row (some
        { operations := m.operations.set p.operationId { op with state := .pending }
          blocked := m.blocked
          bindings := m.bindings
          recovery := m.recovery.set row.deviceId { p with requestId := row.requestId } })

/-- The credential of a redeem in place of all the device had, with the binding of the key, and
the operation of its recovery if the redeem ends one. -/
inductive Replaces (m : Snapshot) (row : Enrollment.Row) (credential : Credential) :
    Lifecycle.State → Prop
  | fresh : m.recovery.get? row.deviceId = none →
      Replaces m row credential
        { operations := m.operations
          blocked := Lifecycle.blockedWith m.blocked
            ((Lifecycle.records m .device row.deviceId).map (·.id)) m.records
          bindings := m.bindings.set row.deviceId ⟨row.publicKey, row.kind⟩
          recovery := m.recovery }
  | recovering (p : Lifecycle.Recovery) (op : Lifecycle.Row) :
      m.recovery.get? row.deviceId = some p → m.operations.get? p.operationId = some op →
      Replaces m row credential
        { operations := m.operations.set p.operationId { op with
            state := .delivered
            credentialId := credential.id
            overlapUntil := op.expiresAt }
          blocked := Lifecycle.blockedWith m.blocked
            ((Lifecycle.records m .device row.deviceId).map (·.id)) m.records
          bindings := m.bindings.set row.deviceId ⟨row.publicKey, row.kind⟩
          recovery := m.recovery }

/-- What the sweep of the integrations does: live rows lapse, with their credentials, and
completed ones are revoked once all their credentials are blocked. -/
structure AgentsSwept (m m' : Snapshot) (ids : List String) : Prop where
  owner : m'.owner = m.owner
  enrollment : m'.enrollment = m.enrollment
  records : m'.records = Lifecycle.disable ids m.records
  operations : m'.operations = m.operations
  bindings : m'.bindings = m.bindings
  recovery : m'.recovery = m.recovery
  blocked : Lifecycle.Blocks m ids m'.blocked
  rows : ∀ id row', m'.agents.get? id = some row' → ∃ row, m.agents.get? id = some row ∧
    row' = { row with state := row'.state } ∧
    (row'.state = row.state ∨
      (row.state.terminal = false ∧ row'.state ∈ [Integration.Status.revoked, .expired, .stale] ∧
        ∀ r, Integration.credentialOf m.records row = some r → r.id ∈ ids) ∨
      (row.state = .completed ∧ row'.state = .revoked ∧
        ∀ r ∈ m.records, r.subject = row.agentId → r.verifier ∈ m'.blocked))
  keeps : ∀ id row, m.agents.get? id = some row → (m'.agents.get? id).isSome
  size : m'.agents.size = m.agents.size
  ids : ∀ i ∈ ids, ∃ id row, m.agents.get? id = some row ∧ row.state.terminal = false ∧
    row.credentialId = i

/-- A binding that was made before stays, a new one is that of a consumed request. -/
structure Binds (m : Snapshot) (bindings : Dict String Lifecycle.Binding) : Prop where
  keeps : ∀ k b, m.bindings.get? k = some b → bindings.get? k = some b
  adds : ∀ k b, bindings.get? k = some b → m.bindings.get? k = some b ∨
    ∃ row ∈ m.requests.values, row.state = .consumed ∧ row.deviceId = k ∧
      b = ⟨row.publicKey, row.kind⟩

inductive Change (c : Ctx) (call : Call) (m : Snapshot) : Snapshot → Prop
  | owner (state : OwnerState) : Change c call m { m with owner := some state }
  -- lifecycle
  | sweep (blocked : List String) : Lifecycle.Blocks m (Lifecycle.sweptIds c m) blocked →
      Change c call m (Lifecycle.swept c m blocked)
  | poll (p : Principal) (id : String) (row : Lifecycle.Row) :
      call.isLifecycle c m .poll p → Lifecycle.Settled c m →
      m.operations.get? id = some row → row.role = p.role → row.subject = p.subject →
      row.action = .rotate → row.state = .queued →
      Change c call m (m.putOperation id { row with state := .pending })
  | deliver (p : Principal) (id : String) (row : Lifecycle.Row) (credential : Credential) :
      call.isLifecycle c m (.deliver id) p → Lifecycle.Settled c m →
      m.operations.get? id = some row → row.role = p.role → row.subject = p.subject →
      row.action = .rotate → row.state = .pending → m.records.length < Lifecycle.limit →
      credential.id = c.draws.credentialId.1 → credential.role = p.role →
      credential.subject = p.subject → credential.enabled = true →
      credential.verifier = c.verifier (Lifecycle.tokenPrefix p.role ++ c.draws.token.1) →
      Change c call m
        { m.putOperation id { row with
            state := .delivered
            credentialId := credential.id
            overlapUntil := min (c.now + Lifecycle.overlapSeconds) row.expiresAt } with
          records := m.records ++ [credential] }
  | ack (p : Principal) (id : String) (saved : Json) (row : Lifecycle.Row) :
      call.isLifecycle c m (.ack id saved) p → Lifecycle.Settled c m →
      m.operations.get? id = some row → row.role = p.role → row.subject = p.subject →
      p.credentialId = row.credentialId → row.state = .delivered →
      Change c call m
        { (m.retired row.oldIds).putOperation id { row with state := .acknowledged } with
          enrollment := Lifecycle.invalidateApprovals m row.oldIds }
  | rotate (p : Principal) (id : String) (role subject : Json) (row : Lifecycle.Row) :
      call.isLifecycle c m (.control .rotate id role subject) p → Lifecycle.isOwner m p = true →
      Lifecycle.Settled c m → m.operations.get? id = none →
      role.str?.bind Role.ofValue? = some row.role → row.role ≠ .owner →
      subject.str? = some row.subject →
      Lifecycle.admission c m .rotate row.role row.subject = .ok () →
      Lifecycle.newOperation c m .rotate id row.role row.subject = .ok row →
      Change c call m (m.putOperation id row)
  | revoke (p : Principal) (id : String) (role subject : Json) (row : Lifecycle.Row) :
      call.isLifecycle c m (.control .revoke id role subject) p → Lifecycle.isOwner m p = true →
      Lifecycle.Settled c m → m.operations.get? id = none →
      role.str?.bind Role.ofValue? = some row.role → row.role ≠ .owner →
      subject.str? = some row.subject →
      Lifecycle.admission c m .revoke row.role row.subject = .ok () →
      Lifecycle.newOperation c m .revoke id row.role row.subject = .ok row →
      Change c call m
        { m with
          records := Lifecycle.disable row.oldIds m.records
          enrollment := Lifecycle.invalidateEnrollments m row.oldIds row.subject
          lifecycle := some ((Lifecycle.endActive { Lifecycle.stateOf m with
            blocked := Lifecycle.blockedWith m.blocked row.oldIds m.records } row.subject).put id
              { row with state := .revoked }) }
  | recover (p : Principal) (id : String) (role subject : Json) (row : Lifecycle.Row) :
      call.isLifecycle c m (.control .recover id role subject) p → Lifecycle.isOwner m p = true →
      Lifecycle.Settled c m → m.operations.get? id = none →
      role.str?.bind Role.ofValue? = some row.role → row.role ≠ .owner →
      subject.str? = some row.subject →
      Lifecycle.admission c m .recover row.role row.subject = .ok () →
      Lifecycle.newOperation c m .recover id row.role row.subject = .ok row →
      Change c call m
        { m with
          records := Lifecycle.disable row.oldIds m.records
          enrollment := Lifecycle.invalidateEnrollments m row.oldIds row.subject
          lifecycle := some
            { operations := ((Lifecycle.endActive (Lifecycle.stateOf m) row.subject).operations.set
                id { row with expiresAt := c.now + Lifecycle.overlapSeconds })
              blocked := Lifecycle.blockedWith m.blocked row.oldIds m.records
              bindings := m.bindings
              recovery := (m.recovery.erase row.subject).set row.subject ⟨id, ""⟩ } }
  -- enrollment
  | mark : Change c call m (m.withRequests c (m.requests.map fun _ => Enrollment.markedRow c m))
  | attempt (attempts : List ℚ) :
      Change c call m { m with enrollment := some { Enrollment.stateOf c m with attempts } }
  | bind (bindings : Dict String Lifecycle.Binding) : Binds m bindings →
      Change c call m { m with lifecycle := some { Lifecycle.stateOf m with bindings } }
  | fail (row : Enrollment.Row) : m.requests.get? row.requestId = some row →
      (Enrollment.status c m row).terminal = false →
      Change c call m (m.putRequest c (Enrollment.charged row))
  | request (kindField keyField nameField : Json) (resolve : Resolve) (row : Enrollment.Row)
      (life : Option Lifecycle.State) :
      call.isEnrollment (.request kindField keyField nameField) resolve → Lifecycle.Settled c m →
      kindField.str? = some row.kind.value → Request.hexField keyField 64 = some row.publicKey →
      Enrollment.displayName row.displayName = true →
      m.ownerActive = true → c.origin.1.length ≤ 256 → isAscii c.origin.1 = true →
      (Enrollment.unexpired c m).size < Enrollment.maxRequests →
      Enrollment.newRequest c m (Enrollment.stateOf c m).serverId (Enrollment.unexpired c m)
        row.kind row.publicKey row.displayName = .ok row →
      Associates m row life →
      Change c call m
        { m.withRequests c ((Enrollment.unexpired c m).set row.requestId row) with
          lifecycle := life }
  | prove (requestId signature : Json) (resolve : Resolve) (row : Enrollment.Row) :
      call.isEnrollment (.proof .prove requestId signature) resolve →
      requestId.str? = some row.requestId → m.requests.get? row.requestId = some row →
      Enrollment.signed c row "prove" signature = true →
      Enrollment.status c m row = .challenge →
      Change c call m (m.putRequest c { row with
        state := .ready
        codeHash := Enrollment.codeDigest c row (fourDigits c.draws.code) })
  | confirm (action : Enrollment.Confirm) (requestId code : Json) (resolve : Resolve)
      (p : Principal) (row : Enrollment.Row) :
      call.isEnrollment (.confirm action requestId code) resolve →
      requestId.str? = some row.requestId → m.requests.get? row.requestId = some row →
      Enrollment.controller c m resolve row.kind = .ok p →
      Enrollment.status c m row = action.expected →
      Enrollment.codeMatches c row code = true →
      Change c call m (m.putRequest c (row.confirm p action))
  | redeem (requestId signature : Json) (resolve : Resolve) (row : Enrollment.Row)
      (credential : Credential) (life : Lifecycle.State) :
      call.isEnrollment (.proof .redeem requestId signature) resolve → Lifecycle.Settled c m →
      requestId.str? = some row.requestId → m.requests.get? row.requestId = some row →
      Enrollment.signed c row "redeem" signature = true →
      Enrollment.status c m row = .approved → Enrollment.unowned m row = .ok () →
      credential.id = c.draws.credentialId.1 → credential.role = .device →
      credential.subject = row.deviceId → credential.enabled = true →
      credential.verifier = c.verifier ("vx_dev_" ++ c.draws.token.1) →
      Replaces m row credential life →
      Change c call m
        { m.putRequest c { row with state := .consumed } with
          records := Lifecycle.disable ((Lifecycle.records m .device row.deviceId).map (·.id))
            m.records ++ [credential]
          lifecycle := some life }
  | close (row : Enrollment.Row) (state : Enrollment.Status) :
      m.requests.get? row.requestId = some row → (Enrollment.status c m row).terminal = false →
      state = .cancelled ∨ state = .denied →
      Change c call m (m.putRequest c (row.close state))
  -- integration
  | agentsSweep (m' : Snapshot) (ids : List String) : AgentsSwept m m' ids → Change c call m m'
  | agentRequest (client : Integration.Client) (terms : Integration.Terms)
      (row : Integration.Row) : m.agents.get? client.requestId = none → m.ownerActive = true →
      Integration.admission c m terms = .ok () → row.requestId = client.requestId →
      row.agentId = "int_" ++ client.requestId → row.state = .pending → row.credentialId = "" →
      Change c call m
        { m with
          enrollment := some (Enrollment.stateOf c m)
          integration := some ⟨(Integration.retained c m).set row.requestId row⟩ }
  | agentCode (row : Integration.Row) (attempts : ℤ) (state : Integration.Status) :
      m.agents.get? row.requestId = some row →
      row.state = .pending ∨ row.state = .approved → state = row.state ∨ state = .failed →
      Change c call m (m.putAgent { row with attempts, state })
  | agentApprove (resolve : Resolve) (row : Integration.Row) :
      m.agents.get? row.requestId = some row →
      row.state = .pending ∨ row.state = .approved →
      Integration.authorize m resolve = .ok () →
      Change c call m (m.putAgent { row with state := .approved })
  | agentClose (row : Integration.Row) (state : Integration.Status) :
      m.agents.get? row.requestId = some row → row.state.terminal = false →
      state = .denied ∨ state = .cancelled →
      Integration.credentialOf m.records row = none →
      Change c call m (m.putAgent { row with state })
  | agentRetire (row : Integration.Row) (state : Integration.Status) (r : Credential) :
      m.agents.get? row.requestId = some row → row.state.terminal = false →
      state = .denied ∨ state = .cancelled →
      Integration.credentialOf m.records row = some r →
      Change c call m ((m.retired [r.id]).putAgent { row with state })
  | agentDeliver (row : Integration.Row) (credential : Credential) :
      m.agents.get? row.requestId = some row → row.state = .approved →
      credential.id = c.draws.credentialId.1 → credential.role = .integration →
      credential.subject = row.agentId → credential.enabled = false →
      credential.verifier = c.verifier ("vx_int_" ++ c.draws.token.1) →
      Change c call m
        { m.putAgent { row with state := .delivered, credentialId := credential.id } with
          records := m.records ++ [credential] }
  | agentComplete (row : Integration.Row) (r : Credential) :
      m.agents.get? row.requestId = some row → row.state = .delivered →
      Integration.credentialOf m.records row = some r → r.verifier ∉ m.blocked →
      Change c call m
        { m.putAgent { row with state := .completed } with
          records := m.records.map fun r' => if r'.id = r.id then { r' with enabled := true }
            else r' }

end Vauxr
