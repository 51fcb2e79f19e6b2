import Vauxr.Enrollment

/-!
Enrollment of integrations (`provisioning/integration.py`): the request of a client, its approval
by the owner, the one-time delivery of the credential and the acknowledgement that enables it.
-/

namespace Vauxr

open Lib

namespace Integration

def ttl : ℚ := 300

/-- `user_code`: what the owner compares, bound to the request, its secret and its deadline. -/
def userCode (c : Ctx) (requestId secret : String) (expiresAt : ℤ) : String :=
  let binding := fromHex (requestId ++ secret) ++ utf8 (toString expiresAt)
  String.ofList
    (((c.digest (utf8 "vauxr-integration-code-v1\x00" ++ binding)).toList.take 8).map
      Char.toUpper)

structure Public where
  requestId : String
  serverId : String
  origin : String
  agentId : String
  displayName : String
  expiresAt : ℚ
  state : Status
  deriving DecidableEq

def Row.public (row : Row) : Public :=
  ⟨row.requestId, row.serverId, row.origin, row.agentId, row.displayName, row.expiresAt,
    row.state⟩

/-- `delivered` carries the bearer credential and its identifier. -/
inductive Reply
  | agent (row : Public)
  | agents (rows : List Public)
  | requested (row : Public) (userCode : String)
  | delivered (row : Public) (credential credentialId : String)
  deriving DecidableEq

def stateOf (m : Snapshot) : State := m.integration.getD emptyState

def State.put (state : State) (id : String) (row : Row) : State :=
  ⟨state.requests.set id row⟩

def credentialOf (records : List Credential) (row : Row) : Option Credential :=
  records.find? fun r => r.id == row.credentialId

/-- `_retire`: a credential that was never acknowledged is blocked in memory. -/
def retire (m : Snapshot) (r : Credential) : Except Error Snapshot := do
  let (state, records) ← Lifecycle.retire (Lifecycle.stateOf m) [r.id] m.records
  return { m with records, lifecycle := some state }

/-! ### The sweep -/

/-- The state a live row moves to, if it does not stay. -/
def lapse (c : Ctx) (m : Snapshot) (row : Row) : Option Status :=
  if (credentialOf m.records row).any (·.verifier ∈ m.blocked) then some .revoked
  else if row.expiresAt ≤ c.now then some .expired
  else if some row.ownerGeneration ≠ m.ownerGeneration || row.origin != c.origin.1 then some .stale
  else none

/-- A completed agent is revoked once every credential of it is blocked. -/
def lost (m : Snapshot) (row : Row) : Bool :=
  let matching := m.records.filter (·.subject == row.agentId)
  !matching.isEmpty && matching.all (·.verifier ∈ m.blocked)

/-- The rows after the sweep so far, and what was retired in memory on the way. -/
structure Sweep where
  rows : State
  staged : Snapshot
  changed : Bool

def sweepRows (c : Ctx) (acc : Sweep) : List (String × Row) → Sweep × Except Error Unit
  | [] => (acc, .ok ())
  | (key, row) :: rest =>
    if row.state = .completed then
      if lost acc.staged row then
        sweepRows c
          { acc with rows := acc.rows.put key { row with state := .revoked }, changed := true } rest
      else sweepRows c acc rest
    else if row.state.terminal then sweepRows c acc rest
    else
      match lapse c acc.staged row with
      | none => sweepRows c acc rest
      | some state =>
        let acc := { acc with rows := acc.rows.put key { row with state }, changed := true }
        match credentialOf acc.staged.records row with
        | none => sweepRows c acc rest
        | some r =>
          match retire acc.staged r with
          | .error e => (acc, .error e)
          | .ok staged => sweepRows c { acc with staged } rest

def sweepBody (c : Ctx) (m : Snapshot) : Except Error (Final Unit) :=
  let state := stateOf m
  match sweepRows c ⟨state, m, false⟩ state.requests.entries with
  | (acc, .error e) => .ok (.raise acc.staged e)
  | (acc, .ok ()) =>
    if acc.changed then .ok (.save acc.staged (.integration acc.rows none) (.ok ()))
    else .ok (.reply ())

def sweep (c : Ctx) : StoreM Unit := Store.transaction (Store.perform c (sweepBody c))

/-! ### Requests -/

/-- What a client signs its requests with: the identifier and the secret of its request. -/
structure Client where
  requestId : String
  secret : String

inductive Call
  | request (client : Client) (origin displayName expiresAt : Json)
  | status (client : Client)
  | deliver (client : Client)
  | cancel (client : Client)
  | ack (client : Client) (credential saved : Json)
  | list
  | approve (requestId : String) (code : Json)
  | deny (requestId : String)

def fields (action : String) : Option (List String) :=
  if action = "request" then
    some ["request_id", "request_secret", "origin", "display_name", "expires_at"]
  else if action ∈ ["status", "deliver", "cancel"] then some ["request_id", "request_secret"]
  else if action = "ack" then some ["request_id", "request_secret", "credential", "saved"]
  else if action = "list" then some []
  else if action = "approve" then some ["request_id", "user_code"]
  else if action = "deny" then some ["request_id"]
  else none

def parse (action : String) (body : Json) : Except Error Call := do
  let names ← demand (fields action) (.enrollment "invalid_request")
  let d ← Request.fields body names
  let get := Request.get d
  if action = "list" then return .list
  let requestId ← Request.requireHex (get "request_id") 32
  if action = "approve" then return .approve requestId (get "user_code")
  if action = "deny" then return .deny requestId
  let secret ← Request.requireHex (get "request_secret") 64
  let client : Client := ⟨requestId, secret⟩
  if action = "request" then
    return .request client (get "origin") (get "display_name") (get "expires_at")
  else if action = "status" then return .status client
  else if action = "deliver" then return .deliver client
  else if action = "cancel" then return .cancel client
  else return .ack client (get "credential") (get "saved")

/-- The owner session; nobody else decides about integrations. -/
def authorize (m : Snapshot) (resolve : Resolve) : Except Error Unit := do
  let p ← demand (resolve m) (.enrollment "unauthorized")
  refuse (!Lifecycle.isOwner m p) (.enrollment "forbidden")

def listBody (resolve : Resolve) (m : Snapshot) : Except Error (Final Reply) := do
  authorize m resolve
  return .reply (.agents ((stateOf m).requests.values.map (·.public)))

def lookup (m : Snapshot) (requestId : String) : Except Error Row :=
  demand ((stateOf m).requests.get? requestId) (.enrollment "not_found")

/-- The row of a client that knows its secret. -/
def nativeRow (c : Ctx) (m : Snapshot) (client : Client) : Except Error Row := do
  let row ← lookup m client.requestId
  refuse (row.secretHash != c.verifier client.secret) (.enrollment "unauthorized")
  return row

/-- What a client asks for; a repeated request must ask for the same. -/
structure Terms where
  displayName : String
  expiresAt : ℤ

def parseRequest (c : Ctx) (origin name expiresAt : Json) : Except Error Terms := do
  refuse (origin.str? ≠ some c.origin.1) (.enrollment "invalid_request")
  let displayName ← demand (name.str?.filter displayName) (.enrollment "invalid_request")
  let expiresAt ← demand expiresAt.int? (.enrollment "invalid_request")
  return ⟨displayName, expiresAt⟩

/-- Expired requests that were issued nothing are forgotten when a new one comes. -/
def retained (c : Ctx) (m : Snapshot) : Dict String Row :=
  (stateOf m).requests.filter fun _ row => row.credentialId != "" || c.now < row.expiresAt

/-- What a new request must meet before anything is written for it. -/
def admission (c : Ctx) (m : Snapshot) (request : Terms) : Except Error Unit := do
  refuse (!(c.now < request.expiresAt && request.expiresAt ≤ c.now + ttl))
    (.enrollment "unavailable")
  let rows := retained c m
  refuse (64 ≤ rows.values.countP (·.credentialId == "")) (.enrollment "capacity")
  refuse (!m.ownerActive) (.enrollment "unavailable")
  refuse (limit ≤ rows.size) (.enrollment "capacity")

/-- The reply of `request`, to the client that made the request under the same terms. -/
def requestReply (c : Ctx) (row : Row) (client : Client) (request : Terms) :
    Except Error Reply := do
  refuse (row.secretHash != c.verifier client.secret) (.enrollment "unauthorized")
  refuse (row.displayName != request.displayName || row.origin != c.origin.1 ||
      row.expiresAt ≠ request.expiresAt)
    (.enrollment "conflict")
  return .requested row.public (userCode c client.requestId client.secret request.expiresAt)

/-- The new row, under the server identifier that enrollment shares with it. -/
def createBody (c : Ctx) (client : Client) (request : Terms) (m : Snapshot) :
    Except Error (Final Reply) := do
  let enrollment := Enrollment.stateOf c m
  let staged := { m with enrollment := some enrollment }
  match m.ownerGeneration with
  | none => return .raise staged .key
  | some ownerGeneration =>
    let row : Row :=
      { requestId := client.requestId
        serverId := enrollment.serverId
        origin := c.origin.1
        agentId := "int_" ++ client.requestId
        displayName := request.displayName
        expiresAt := request.expiresAt
        createdAt := c.now
        state := .pending
        attempts := 0
        secretHash := c.verifier client.secret
        codeHash := c.verifier (userCode c client.requestId client.secret request.expiresAt)
        ownerGeneration
        credentialId := "" }
    return .save staged (.integration ⟨(retained c m).set client.requestId row⟩ none)
      (requestReply c row client request)

def statusBody (c : Ctx) (client : Client) (m : Snapshot) : Except Error (Final Reply) := do
  let row ← nativeRow c m client
  return .reply (.agent row.public)

/-- What an acknowledgement must carry: the exact credential that was delivered. -/
def acknowledged (c : Ctx) (m : Snapshot) (client : Client) (credential saved : Json) :
    Except Error (Row × Credential) := do
  let row ← nativeRow c m client
  let token ← demand (credential.str?.filter fun t => saved.bool? = some true && t.length ≤ 512)
    (.enrollment "invalid_ack")
  let r ← demand (credentialOf m.records row) (.enrollment "invalid_ack")
  refuse (r.verifier != c.verifier token || r.verifier ∈ m.blocked) (.enrollment "invalid_ack")
  refuse (!(row.state = .completed || row.state = .delivered)) (.enrollment "unavailable")
  return (row, r)

def agentOf (c : Ctx) (row : Row) : Agents.Agent :=
  ⟨row.agentId, row.displayName, .openclaw, c.platform.isoformat row.createdAt, none, true⟩

/-- The row is completed and its credential enabled in one write. -/
def completeBody (row : Row) (r : Credential) (m : Snapshot) : Except Error (Final Reply) :=
  if row.state = .completed then .ok (.reply (.agent row.public))
  else
    let row := { row with state := Status.completed }
    .ok (.save m
      (.integration ((stateOf m).put row.requestId row)
        (some (m.records.map fun r' => if r'.id = r.id then { r' with enabled := true } else r')))
      (.ok (.agent row.public)))

def approveBody (c : Ctx) (resolve : Resolve) (requestId : String) (code : Json) (m : Snapshot) :
    Except Error (Final Reply) := do
  authorize m resolve
  let row ← lookup m requestId
  refuse (!(row.state = .pending || row.state = .approved)) (.enrollment "unavailable")
  if !(code.str?.any fun code => code.length == 8 && row.codeHash == c.verifier code) then
    let attempts := row.attempts + 1
    let row := { row with attempts, state := if 5 ≤ attempts then .failed else row.state }
    return .save m (.integration ((stateOf m).put requestId row) none)
      (.error (.enrollment "invalid_code"))
  else
    let row := { row with state := Status.approved }
    return .save m (.integration ((stateOf m).put requestId row) none) (.ok (.agent row.public))

/-- `deny` and `cancel`; a credential that was already delivered is retired with the row. -/
def closeBody (m : Snapshot) (row : Row) (target : Status) : Except Error (Final Reply) := do
  if row.state = target then return .reply (.agent row.public)
  refuse row.state.terminal (.enrollment "unavailable")
  let row' := { row with state := target }
  let write : Write := .integration ((stateOf m).put row.requestId row') none
  match credentialOf m.records row with
  | none => return .save m write (.ok (.agent row'.public))
  | some r =>
    let staged ← retire m r
    return .save staged write (.ok (.agent row'.public))

def denyBody (resolve : Resolve) (requestId : String) (m : Snapshot) :
    Except Error (Final Reply) := do
  authorize m resolve
  let row ← lookup m requestId
  closeBody m row .denied

def cancelBody (c : Ctx) (client : Client) (m : Snapshot) : Except Error (Final Reply) := do
  let row ← nativeRow c m client
  closeBody m row .cancelled

/-- The credential is issued disabled: it is no authority before its acknowledgement. -/
def deliverBody (c : Ctx) (client : Client) (m : Snapshot) : Except Error (Final Reply) := do
  let row ← nativeRow c m client
  refuse (row.state ≠ .approved) (.enrollment "unavailable")
  let token := "vx_int_" ++ c.draws.token.1
  let credential ← Credential.create c.draws.credentialId.1 .integration row.agentId
    (c.verifier token) false
  let row := { row with state := Status.delivered, credentialId := credential.id }
  return .save m
    (.integration ((stateOf m).put row.requestId row) (some (m.records ++ [credential])))
    (.ok (.delivered row.public token credential.id))

/-- A known identifier is answered from its row; a new one is admitted, then written. -/
def request (c : Ctx) (client : Client) (origin name expiresAt : Json) : StoreM Reply := do
  let request ← Store.ofExcept (parseRequest c origin name expiresAt)
  let m ← Store.mem
  match (stateOf m).requests.get? client.requestId with
  | some row => Store.ofExcept (requestReply c row client request)
  | none => do
    Store.ofExcept (admission c m request)
    Store.perform c (Enrollment.markBody c)
    Store.perform c (createBody c client request)

/-- The registry row is written first: usable authority never lacks its routing metadata. -/
def ack (c : Ctx) (client : Client) (credential saved : Json) : StoreM Reply := do
  let (row, r) ← Store.ofExcept (acknowledged c (← Store.mem) client credential saved)
  Store.registerAgent c (agentOf c row)
  Store.perform c (completeBody row r)

def run (c : Ctx) (call : Call) (resolve : Resolve) : StoreM Reply :=
  match call with
  | .request client origin name expiresAt => request c client origin name expiresAt
  | .status client => Store.perform c (statusBody c client)
  | .deliver client => Store.perform c (deliverBody c client)
  | .cancel client => Store.perform c (cancelBody c client)
  | .ack client credential saved => ack c client credential saved
  | .list => Store.perform c (listBody resolve)
  | .approve requestId code => Store.perform c (approveBody c resolve requestId code)
  | .deny requestId => Store.perform c (denyBody resolve requestId)

def execute (c : Ctx) (action : String) (body : Json) (resolve : Resolve) : StoreM Reply := do
  let call ← Store.ofExcept (parse action body)
  Store.transaction do
    sweep c
    run c call resolve

end Integration

end Vauxr
