import Vauxr.Request

/-!
The credential lifecycle of a subject (`provisioning/lifecycle.py`): rotation, revocation and
recovery of its credentials, the sweep, and the staging of an enrolled device credential.
-/

namespace Vauxr

open Lib

/-- Mark a row that lost its authority; a row that never had a code gets the sentinel. -/
def Enrollment.Row.close (row : Enrollment.Row) (state : Enrollment.Status) : Enrollment.Row :=
  { row with state, codeHash := if row.codeHash = "" then zeroDigest else row.codeHash }

namespace Lifecycle

def queueSeconds : ℚ := 86400

def overlapSeconds : ℚ := 300

structure Public where
  operationId : String
  role : Role
  subject : String
  action : Action
  state : Phase
  expiresAt : ℚ
  overlapUntil : ℚ
  credentialId : String
  deriving DecidableEq

def Row.public (row : Row) : Public :=
  ⟨row.operationId, row.role, row.subject, row.action, row.state, row.expiresAt,
    row.overlapUntil, row.credentialId⟩

inductive Reply
  | idle
  | operation (row : Public) (credential : Option String)
  deriving DecidableEq

def stateOf (m : Snapshot) : State := m.lifecycle.getD emptyState

def State.put (state : State) (id : String) (row : Row) : State :=
  { state with operations := state.operations.set id row }

/-- The tombstones, with those of the given records. -/
def blockedWith (blocked ids : List String) (records : List Credential) : List String :=
  sortedSet (· ≤ ·) (blocked ++ (records.filter (·.id ∈ ids)).map (·.verifier))

def disable (ids : List String) (records : List Credential) : List Credential :=
  records.map fun r => if r.id ∈ ids then { r with enabled := false } else r

/-- `_retire`: block the verifiers of the given records and disable them. -/
def retire (state : State) (ids : List String) (records : List Credential) :
    Except Error (State × List Credential) := do
  let blocked := blockedWith state.blocked ids records
  refuse (tombstoneLimit < blocked.length) (.enrollment "capacity")
  return ({ state with blocked }, disable ids records)

def approvedBy (ids : List String) (row : Enrollment.Row) : Bool :=
  row.initiator.any (·.credentialId ∈ ids) || row.approver.any (·.credentialId ∈ ids)

/-- `_invalidate_approvals` -/
def invalidateApprovals (m : Snapshot) (ids : List String) : Option Enrollment.State :=
  m.enrollment.map fun e => { e with
    requests := e.requests.map fun _ row =>
      if !row.state.terminal && approvedBy ids row then row.close .stale else row }

/-! ### The sweep -/

structure Sweep where
  state : State
  records : List Credential
  retired : List String
  changed : Bool

/-- Past the earlier of its two deadlines, or not of this owner and origin any more. -/
def overdue (c : Ctx) (m : Snapshot) (row : Row) : Bool :=
  min row.expiresAt (if row.overlapUntil = 0 then row.expiresAt else row.overlapUntil) ≤ c.now ||
    some row.ownerGeneration ≠ m.ownerGeneration || row.origin != c.origin.1

def sweepRow (c : Ctx) (m : Snapshot) (acc : Sweep) (entry : String × Row) :
    Except Error Sweep := do
  let (key, row) := entry
  if row.state.terminal then return acc
  else if row.state = .acknowledged then
    return { acc with state := acc.state.put key { row with state := .completed }, changed := true }
  else if overdue c m row then
    let ids := row.credentialId :: if row.state = .delivered then row.oldIds else []
    let (state, records) ← retire acc.state ids acc.records
    return ⟨state.put key { row with state := .expired }, records, acc.retired ++ ids, true⟩
  else return acc

/-- Operation history is kept, but a finished recovery is not pointed to any more. -/
def sweepPointer (acc : Sweep) (entry : String × Recovery) : Except Error Sweep := do
  let (subject, recovery) := entry
  let operation ← demand (acc.state.operations.get? recovery.operationId) .key
  if operation.state.terminal then
    return { acc with
      state := { acc.state with recovery := acc.state.recovery.erase subject }, changed := true }
  else return acc

def sweepLoops (c : Ctx) (m : Snapshot) : Except Error Sweep := do
  let state := stateOf m
  let acc ← state.operations.entries.foldlM (sweepRow c m) ⟨state, m.records, [], false⟩
  state.recovery.entries.foldlM sweepPointer acc

def sweepBody (c : Ctx) (m : Snapshot) : Except Error (Final Unit) := do
  let acc ← sweepLoops c m
  if acc.changed then
    return .save m (.lifecycle acc.state acc.records (some (invalidateApprovals m acc.retired)))
      (.ok ())
  else return .reply ()

def sweep (c : Ctx) : StoreM Unit := Store.transaction (Store.perform c (sweepBody c))

/-! ### Requests -/

inductive Call
  | control (action : Action) (operationId : String) (role subject : Json)
  | status (operationId : String)
  | poll
  | deliver (operationId : String)
  | ack (operationId : String) (saved : Json)

def fields (action : String) : Option (List String) :=
  if action ∈ ["rotate", "revoke", "recover"] then some ["operation_id", "role", "subject"]
  else if action ∈ ["status", "deliver"] then some ["operation_id"]
  else if action = "poll" then some []
  else if action = "ack" then some ["operation_id", "saved"]
  else none

def parse (action : String) (body : Json) : Except Error Call := do
  let names ← demand (fields action) (.enrollment "invalid_request")
  let d ← Request.fields body names
  if action = "poll" then return .poll
  let operationId ← Request.requireHex (Request.get d "operation_id") 32
  match Action.ofValue? action with
  | some action =>
    return .control action operationId (Request.get d "role") (Request.get d "subject")
  | none =>
    if action = "status" then return .status operationId
    else if action = "deliver" then return .deliver operationId
    else return .ack operationId (Request.get d "saved")

/-- The owner session of this snapshot. -/
def isOwner (m : Snapshot) (p : Principal) : Bool :=
  p.role = .owner && p.subject == "owner" && some p.credentialId = m.ownerGeneration &&
    m.ownerActive

def authorize (c : Ctx) (m : Snapshot) (resolve : Resolve) : Except Error Principal := do
  let p ← demand (resolve m) (.enrollment "unauthorized")
  refuse (!isOwner m p && !c.current m p) (.enrollment "unauthorized")
  return p

/-- The operation a request names, open to its subject and, for its status, to the owner. -/
def target (m : Snapshot) (p : Principal) (operationId : String) (status : Bool) :
    Except Error Row := do
  let row ← demand ((stateOf m).operations.get? operationId) (.enrollment "not_found")
  let subject := p.role = row.role && p.subject == row.subject
  refuse (!subject && !(isOwner m p && status)) (.enrollment "forbidden")
  return row

def pollBody (m : Snapshot) (p : Principal) : Except Error (Final Reply) := do
  refuse (!(p.role = .device || p.role = .integration)) (.enrollment "forbidden")
  let state := stateOf m
  match state.operations.entries.find? fun e =>
    e.2.role = p.role && e.2.subject == p.subject && e.2.action = .rotate &&
      !e.2.state.terminal with
  | none => return .reply .idle
  | some (key, row) =>
    if row.state = .queued then
      let row := { row with state := Phase.pending }
      return .save m (.lifecycle (state.put key row) m.records none)
        (.ok (.operation row.public none))
    else return .reply (.operation row.public none)

def statusBody (m : Snapshot) (p : Principal) (operationId : String) : Except Error (Final Reply) := do
  let row ← target m p operationId true
  return .reply (.operation row.public none)

def ackBody (m : Snapshot) (p : Principal) (operationId : String) (saved : Json) :
    Except Error (Final Reply) := do
  let row ← target m p operationId false
  refuse (saved.bool? ≠ some true || p.credentialId != row.credentialId)
    (.enrollment "invalid_ack")
  if row.state = .acknowledged || row.state = .completed then
    return .reply (.operation row.public none)
  refuse (row.state ≠ .delivered) (.enrollment "unavailable")
  let (state, records) ← retire (stateOf m) row.oldIds m.records
  let row' := { row with state := Phase.acknowledged }
  return .save m
    (.lifecycle (state.put operationId row') records (some (invalidateApprovals m row.oldIds)))
    (.ok (.operation row'.public none))

def tokenPrefix (role : Role) : String := "vx_" ++ if role = .device then "dev_" else "int_"

def deliverBody (c : Ctx) (m : Snapshot) (p : Principal) (operationId : String) :
    Except Error (Final Reply) := do
  let row ← target m p operationId false
  refuse (row.state ≠ .pending || row.action ≠ .rotate) (.enrollment "unavailable")
  refuse (limit ≤ m.records.length) (.enrollment "capacity")
  let token := tokenPrefix p.role ++ c.draws.token.1
  let credential ← Credential.create c.draws.credentialId.1 p.role p.subject (c.verifier token) true
  let row' := { row with
    state := Phase.delivered
    credentialId := credential.id
    overlapUntil := min (c.now + overlapSeconds) row.expiresAt }
  return .save m (.lifecycle ((stateOf m).put operationId row') (m.records ++ [credential]) none)
    (.ok (.operation row'.public (some token)))

/-! ### Owner controls -/

def records (m : Snapshot) (role : Role) (subject : String) : List Credential :=
  m.records.filter fun r => r.role = role && r.subject == subject

def isActive (subject : String) (row : Row) : Bool := row.subject == subject && !row.state.terminal

/-- What a control asks of the tables before it is admitted. General history stops at `limit`;
the reserved tail only admits revokes that remove a liability. -/
def admission (c : Ctx) (m : Snapshot) (action : Action) (role : Role) (subject : String) :
    Except Error Unit := do
  let state := stateOf m
  let matching := records m role subject
  refuse matching.isEmpty (.enrollment "not_found")
  let active := state.operations.values.any (isActive subject)
  refuse (limit ≤ state.operations.size &&
      !(action = .revoke && (active || matching.any fun r => !(r.verifier ∈ state.blocked))))
    (.enrollment "capacity")
  refuse (action = .rotate && (active || !matching.any (m.usable c.now)))
    (.enrollment "conflict")
  refuse (action = .recover && !(role = .device && (state.bindings.get? subject).isSome))
    (.enrollment "recovery_unavailable")

/-- Every live operation of the subject ends, and nothing points to one any more. -/
def endActive (state : State) (subject : String) : State :=
  { state with
    operations := state.operations.map fun _ old =>
      if isActive subject old then { old with state := .revoked } else old
    recovery := state.recovery.erase subject }

/-- The open enrollments of the device, whoever has acted on them, and those approved with one
of the identifiers. -/
def invalidateEnrollments (m : Snapshot) (ids : List String) (subject : String) :
    Option Enrollment.State :=
  (invalidateApprovals m ids).map fun e => { e with
    requests := e.requests.map fun _ row =>
      if row.deviceId = subject && !row.state.terminal then row.close .stale else row }

def newOperation (c : Ctx) (m : Snapshot) (action : Action) (operationId : String) (role : Role)
    (subject : String) : Except Error Row := do
  let generation ← demand m.ownerGeneration .key
  return { operationId, role, subject, action
           state := .queued
           expiresAt := c.now + queueSeconds
           overlapUntil := 0
           credentialId := ""
           oldIds := (records m role subject).map (·.id)
           ownerGeneration := generation
           origin := c.origin.1 }

def controlBody (c : Ctx) (m : Snapshot) (action : Action) (operationId : String)
    (roleField subjectField : Json) : Except Error (Final Reply) := do
  let role ← demand ((roleField.str?.bind Role.ofValue?).filter (· ≠ .owner))
    (.enrollment "invalid_request")
  let subject ← demand subjectField.str? (.enrollment "invalid_request")
  let state := stateOf m
  match state.operations.get? operationId with
  | some existing =>
    refuse (!(existing.action = action && existing.role = role && existing.subject == subject))
      (.enrollment "conflict")
    return .reply (.operation existing.public none)
  | none =>
    admission c m action role subject
    let row ← newOperation c m action operationId role subject
    match action with
    | .rotate =>
      return .save m (.lifecycle (state.put operationId row) m.records none)
        (.ok (.operation row.public none))
    | .revoke =>
      let (state, retired) ← retire state row.oldIds m.records
      let row := { row with state := Phase.revoked }
      return .save m
        (.lifecycle ((endActive state subject).put operationId row) retired
          (some (invalidateEnrollments m row.oldIds subject)))
        (.ok (.operation row.public none))
    | .recover =>
      let (state, retired) ← retire state row.oldIds m.records
      let row := { row with expiresAt := c.now + overlapSeconds }
      let state := endActive state subject
      let state := { state with recovery := state.recovery.set subject ⟨operationId, ""⟩ }
      return .save m
        (.lifecycle (state.put operationId row) retired
          (some (invalidateEnrollments m row.oldIds subject)))
        (.ok (.operation row.public none))

def body (c : Ctx) (call : Call) (resolve : Resolve) (m : Snapshot) : Except Error (Final Reply) := do
  let p ← authorize c m resolve
  match call with
  | .control action operationId role subject =>
    refuse (!isOwner m p) (.enrollment "forbidden")
    controlBody c m action operationId role subject
  | .poll => pollBody m p
  | .status operationId => statusBody m p operationId
  | .ack operationId saved => ackBody m p operationId saved
  | .deliver operationId => deliverBody c m p operationId

def execute (c : Ctx) (action : String) (request : Json) (resolve : Resolve) : StoreM Reply := do
  let call ← Store.ofExcept (parse action request)
  Store.transaction do
    sweep c
    Store.perform c (body c call resolve)

/-! ### Staging for enrollment -/

def bindEnrollment (m : Snapshot) (row : Enrollment.Row) : Except Error State := do
  let state := stateOf m
  refuse ((state.bindings.get? row.deviceId).isNone && limit ≤ state.bindings.size)
    (.enrollment "capacity")
  let binding : Binding := ⟨row.publicKey, row.kind⟩
  refuse ((state.bindings.get? row.deviceId).getD binding ≠ binding) (.enrollment "already_owned")
  return { state with bindings := state.bindings.set row.deviceId binding }

/-- Stage the binding, then the retirement of every old token of the device. The binding stays
in memory when the retirement is refused. -/
def replaceEnrollmentCredential (m : Snapshot) (row : Enrollment.Row) (credential : Credential) :
    Except Error (Snapshot × Except Error (List Credential)) := do
  let bound ← bindEnrollment m row
  match retire bound ((records m .device row.deviceId).map (·.id)) m.records with
  | .error e => return ({ m with lifecycle := some bound }, .error e)
  | .ok (state, retired) =>
    return ({ m with lifecycle := some state }, .ok (retired ++ [credential]))

end Lifecycle

end Vauxr
