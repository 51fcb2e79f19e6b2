import Vauxr.Lifecycle

/-!
Device enrollment (`provisioning/enrollment.py`): the request of a device key, its proof, the
two confirmations of the code by controllers, and the redeem that issues the credential.
-/

namespace Vauxr

open Lib

namespace Enrollment

/-- The exact v1 wire transcript: a fixed-position compact ASCII JSON array. -/
def transcript (row : Row) (action : String) : List UInt8 :=
  utf8 (jsonArray [jsonString "vauxr-enrollment", jsonString action, "1",
    jsonString row.requestId, jsonString row.serverId, jsonString row.origin,
    jsonString row.kind.value, jsonString row.publicKey, jsonString row.deviceId,
    jsonString row.nonce, toString row.expiresAt, jsonString row.ownerGeneration,
    jsonString row.displayName])

def codeDigest (c : Ctx) (row : Row) (code : String) : String :=
  c.digest (transcript row "code" ++ utf8 "\n" ++ utf8 code)

def fourDigitCode (s : String) : Bool :=
  s.toList.length == 4 && s.toList.all fun c => '0' ≤ c && c ≤ '9'

structure Public where
  requestId : String
  deviceId : String
  kind : Kind
  displayName : String
  status : Status
  expiresAt : ℤ
  deriving DecidableEq

/-- `challenge` carries the row whose `BINDING` fields are returned. -/
inductive Reply
  | challenge (row : Row)
  | ready (code : String) (expiresAt : ℤ)
  | request (row : Public)
  | requests (rows : List Public)
  | approval (status : Status) (deviceId : String)
  | consumed (deviceId credentialId token : String) (operationId : Option String)
  deriving DecidableEq

def State.put (state : State) (id : String) (row : Row) : State :=
  { state with requests := state.requests.set id row }

/-- What is kept, or the state of a server that has none yet. -/
def stateOf (c : Ctx) (m : Snapshot) : State :=
  m.enrollment.getD ⟨c.draws.serverId.1, Dict.empty, []⟩

/-! ### Authority of a request -/

/-- `_actor_current`, on an actor that is there. -/
def actorCurrent (c : Ctx) (m : Snapshot) (actor : Principal) : Bool :=
  if actor.role = .owner then m.ownerActive && some actor.credentialId = m.ownerGeneration
  else c.current m actor

def status (c : Ctx) (m : Snapshot) (row : Row) : Status :=
  if row.state.terminal then row.state
  else if row.expiresAt ≤ c.now then .expired
  else if some row.ownerGeneration ≠ m.ownerGeneration || row.origin != c.origin.1 ||
      row.initiator.any (!actorCurrent c m ·) || row.approver.any (!actorCurrent c m ·) then
    .stale
  else row.state

def Row.public (c : Ctx) (m : Snapshot) (row : Row) : Public :=
  ⟨row.requestId, row.deviceId, row.kind, row.displayName, status c m row, row.expiresAt⟩

/-- `_state`: rows that lost their authority are persisted as stale before anything else. -/
def markBody (c : Ctx) (m : Snapshot) : Except Error (Final Unit) :=
  let state := stateOf c m
  let lost (row : Row) : Bool := !row.state.terminal && status c m row = .stale
  if state.requests.values.any lost then
    .ok (.save m
      (.enrollment
        { state with
          requests := state.requests.map fun _ row =>
            if lost row then row.close .stale else row } none)
      (.ok ()))
  else .ok (.reply ())

/-- Called under the transaction; the resolver checks the session again there. -/
def controller (c : Ctx) (m : Snapshot) (resolve : Resolve) (kind : Kind) :
    Except Error Principal := do
  let p ← demand (resolve m) (.enrollment "unauthorized")
  refuse (!(p.role = .owner || p.role = .integration) ||
      (p.role = .integration && !c.current m p) ||
      (p.role = .owner && !actorCurrent c m p) ||
      (kind = .browser && p.role ≠ .owner))
    (.enrollment "forbidden")
  return p

/-- `_failure`: charge a failed proof to a row that is still open. -/
def failure {α : Type} (c : Ctx) (m : Snapshot) (row : Row) : Except Error (Final α) :=
  if (status c m row).terminal then .error (.enrollment "invalid_proof")
  else
    let attempts := min 5 (row.attempts + 1)
    let row := { row with attempts }
    let row := if attempts = 5 then row.close .failed else row
    .ok (.save m (.enrollment ((stateOf c m).put row.requestId row) none)
      (.error (.enrollment "invalid_proof")))

def signed (c : Ctx) (row : Row) (action : String) (signature : Json) : Bool :=
  (Request.hexField signature 128).any fun s =>
    c.platform.ed25519 row.publicKey s (transcript row action)

/-! ### Requests -/

inductive Proof
  | prove | redeem | cancel | status
  deriving DecidableEq

def Proof.action : Proof → String
  | .prove => "prove"
  | .redeem => "redeem"
  | .cancel => "cancel"
  | .status => "status"

/-- `confirm` is `initiate`, then `approve`. -/
inductive Confirm
  | initiate | approve
  deriving DecidableEq

inductive Call
  | request (kind publicKey displayName : Json)
  | proof (action : Proof) (requestId signature : Json)
  | confirm (action : Confirm) (requestId code : Json)
  | deny (requestId : Json)
  | list

def fields (action : String) : Option (List String) :=
  if action = "request" then some ["kind", "public_key", "display_name"]
  else if action ∈ ["prove", "redeem", "cancel", "status"] then some ["request_id", "signature"]
  else if action ∈ ["initiate", "approve"] then some ["request_id", "code"]
  else if action = "deny" then some ["request_id"]
  else if action = "list" then some []
  else none

def parse (action : String) (body : Json) : Except Error Call := do
  let names ← demand (fields action) (.enrollment "invalid_request")
  let d ← Request.fields body names
  let get := Request.get d
  if action = "request" then
    return .request (get "kind") (get "public_key") (get "display_name")
  else if action = "list" then return .list
  else if action = "deny" then return .deny (get "request_id")
  else if action = "initiate" then return .confirm .initiate (get "request_id") (get "code")
  else if action = "approve" then return .confirm .approve (get "request_id") (get "code")
  else if action = "prove" then return .proof .prove (get "request_id") (get "signature")
  else if action = "redeem" then return .proof .redeem (get "request_id") (get "signature")
  else if action = "cancel" then return .proof .cancel (get "request_id") (get "signature")
  else return .proof .status (get "request_id") (get "signature")

/-- `_unowned`: the device is new, or bound to this very key and kind. -/
def unowned (m : Snapshot) (row : Row) : Except Error Unit := do
  refuse (1024 ≤ m.records.length) (.enrollment "capacity")
  match m.bindings.get? row.deviceId with
  | some binding =>
    refuse (binding ≠ ⟨row.publicKey, row.kind⟩) (.enrollment "already_owned")
  | none =>
    -- a credential without a binding predates enrollment and cannot be claimed
    refuse (m.records.any (·.subject == row.deviceId)) (.enrollment "already_owned")

def boundIds (m : Snapshot) (publicKey : String) (kind : Kind) : List String :=
  (m.bindings.entries.filter fun e => e.2 = ⟨publicKey, kind⟩).map Prod.fst

def requestedIds (m : Snapshot) (publicKey : String) (kind : Kind) : List String :=
  (m.requests.values.filter fun row => row.publicKey == publicKey && row.kind = kind).map
    (·.deviceId)

/-- The identifier of a key that is bound to none and named by no request. -/
def derivedId (c : Ctx) (publicKey : String) : String :=
  "dev_" ++ String.ofList ((c.digest (fromHex publicKey)).toList.take c.deviceIdLength)

def deviceId (c : Ctx) (m : Snapshot) (publicKey : String) (kind : Kind) :
    Except Error String := do
  let existing := boundIds m publicKey kind
  refuse (1 < existing.length) (.enrollment "conflict")
  return (existing ++ requestedIds m publicKey kind).headD (derivedId c publicKey)

/-- The row of a new request; a device that is already in the middle of one waits for it. -/
def newRequest (c : Ctx) (m : Snapshot) (serverId : String) (requests : Dict String Row)
    (kind : Kind) (publicKey name : String) : Except Error Row := do
  let generation ← demand m.ownerGeneration .key
  let id ← deviceId c m publicKey kind
  let row : Row :=
    { requestId := c.draws.requestId.1
      serverId
      origin := c.origin.1
      kind
      publicKey
      deviceId := id
      nonce := c.draws.nonce.1
      expiresAt := ⌊c.now⌋ + ttl
      ownerGeneration := generation
      displayName := name
      state := .challenge
      attempts := 0
      codeHash := ""
      initiator := none
      approver := none }
  unowned m row
  refuse (requests.values.any fun other =>
    other.deviceId == row.deviceId && !(status c m other).terminal) (.enrollment "conflict")
  return row

/-- `_request`. A device in recovery has its operation associated with the request. -/
def requestBody (c : Ctx) (m : Snapshot) (kindField keyField nameField : Json) :
    Except Error (Final Reply) := do
  let kind ← demand (kindField.str?.bind Kind.ofValue?) (.enrollment "invalid_request")
  let publicKey ← Request.requireHex keyField 64
  let name ← demand (nameField.str?.filter displayName) (.enrollment "invalid_request")
  refuse (c.origin.1 == "" || 256 < c.origin.1.length || !isAscii c.origin.1 || !m.ownerActive)
    (.enrollment "unavailable")
  let state := stateOf c m
  let requests := state.requests.filter fun _ row => ⌊c.now⌋ < row.expiresAt
  refuse (maxRequests ≤ requests.size) (.enrollment "capacity")
  let row ← newRequest c m state.serverId requests kind publicKey name
  let write : Write :=
    .enrollment { state with requests := requests.set row.requestId row } none
  match m.recovery.get? row.deviceId with
  | none => return .save m write (.ok (.challenge row))
  | some recovery =>
    let life := Lifecycle.stateOf m
    let life := { life with
      recovery := life.recovery.set row.deviceId { recovery with requestId := row.requestId } }
    match life.operations.get? recovery.operationId with
    | none => return .raise { m with lifecycle := some life } .key
    | some operation =>
      return .save
        { m with
          lifecycle := some (life.put recovery.operationId { operation with state := .pending }) }
        write (.ok (.challenge row))

def listBody (c : Ctx) (m : Snapshot) (resolve : Resolve) : Except Error (Final Reply) := do
  let p ← controller c m resolve .physical
  let rows := (stateOf c m).requests.values.filter fun row =>
    p.role = .owner || row.kind = .physical
  return .reply (.requests (rows.map (·.public c m)))

def lookup (c : Ctx) (m : Snapshot) (requestId : Json) : Except Error Row := do
  let id ← Request.requireHex requestId 32
  demand ((stateOf c m).requests.get? id) (.enrollment "not_found")

def proveBody (c : Ctx) (m : Snapshot) (row : Row) : Except Error (Final Reply) := do
  refuse (status c m row ≠ .challenge) (.enrollment "unavailable")
  let code := fourDigits c.draws.code
  let row := { row with state := Status.ready, codeHash := codeDigest c row code }
  return .save m (.enrollment ((stateOf c m).put row.requestId row) none)
    (.ok (.ready code row.expiresAt))

/-- The end of the ceremony: the request is consumed and its device gets a credential in place
of all it had; a recovery that waits for the device is delivered with it. -/
def redeemBody (c : Ctx) (m : Snapshot) (row : Row) : Except Error (Final Reply) := do
  refuse (status c m row ≠ .approved) (.enrollment "unavailable")
  unowned m row
  let token := "vx_dev_" ++ c.draws.token.1
  let credential ← Credential.create c.draws.credentialId.1 .device row.deviceId
    (c.verifier token) true
  let (staged, retired) ← Lifecycle.replaceEnrollmentCredential m row credential
  match retired with
  | .error e => return .raise staged e
  | .ok records =>
    let consumed := { row with state := Status.consumed }
    let write : Write :=
      .enrollment ((stateOf c m).put row.requestId consumed) (some records)
    let reply (operationId : Option String) : Reply :=
      .consumed row.deviceId credential.id token operationId
    match staged.recovery.get? row.deviceId with
    | none => return .save staged write (.ok (reply none))
    | some recovery =>
      match staged.operations.get? recovery.operationId with
      | none => return .raise staged .key
      | some operation =>
        let operation := { operation with
          state := Lifecycle.Phase.delivered
          credentialId := credential.id
          overlapUntil := operation.expiresAt }
        return .save
          { staged with
            lifecycle := some ((Lifecycle.stateOf staged).put recovery.operationId operation) }
          write (.ok (reply (some recovery.operationId)))

/-- `cancel` by the device and `deny` by a controller. -/
def closeBody (c : Ctx) (m : Snapshot) (row : Row) (state : Status) :
    Except Error (Final Reply) :=
  let row := row.close state
  .ok (.save m (.enrollment ((stateOf c m).put row.requestId row) none)
    (.ok (.approval row.state row.deviceId)))

def proofBody (c : Ctx) (m : Snapshot) (action : Proof) (requestId signature : Json) :
    Except Error (Final Reply) := do
  let row ← lookup c m requestId
  refuse (action ≠ .status && (status c m row).terminal) (.enrollment "unavailable")
  if !signed c row action.action signature then failure c m row
  else
    match action with
    | .status => return .reply (.request (row.public c m))
    | .prove => proveBody c m row
    | .redeem => redeemBody c m row
    | .cancel => closeBody c m row .cancelled

def Confirm.expected : Confirm → Status
  | .initiate => .ready
  | .approve => .initiated

def Confirm.operation : Confirm → Operation
  | .initiate => .pairInitiate
  | .approve => .pairApprove

def Row.confirm (row : Row) (p : Principal) : Confirm → Row
  | .initiate => { row with initiator := some p, state := .initiated }
  | .approve => { row with approver := some p, state := .approved }

def codeMatches (c : Ctx) (row : Row) (code : Json) : Bool :=
  code.str?.any fun code => fourDigitCode code && codeDigest c row code == row.codeHash

def confirmBody (c : Ctx) (m : Snapshot) (resolve : Resolve) (action : Confirm)
    (requestId code : Json) : Except Error (Final Reply) := do
  let row ← lookup c m requestId
  let p ← controller c m resolve row.kind
  refuse (status c m row).terminal (.enrollment "unavailable")
  refuse (status c m row ≠ action.expected) (.enrollment "unavailable")
  if !codeMatches c row code then failure c m row
  else
    -- the policy's human boundary, which the code stands for
    let permitted := if row.kind = .physical
      then Policy.allowed (some p) action.operation none true
      else p.role = .owner
    refuse (!permitted) (.enrollment "forbidden")
    unowned m row
    let row := row.confirm p action
    return .save m (.enrollment ((stateOf c m).put row.requestId row) none)
      (.ok (.approval row.state row.deviceId))

def denyBody (c : Ctx) (m : Snapshot) (resolve : Resolve) (requestId : Json) :
    Except Error (Final Reply) := do
  let row ← lookup c m requestId
  let _ ← controller c m resolve row.kind
  refuse (status c m row).terminal (.enrollment "unavailable")
  closeBody c m row .denied

def body (c : Ctx) (call : Call) (resolve : Resolve) (m : Snapshot) :
    Except Error (Final Reply) := do
  match call with
  | .request kind publicKey name =>
    if kind.str? = some "browser" then
      let _ ← controller c m resolve .browser
    requestBody c m kind publicKey name
  | .list => listBody c m resolve
  | .proof action requestId signature => proofBody c m action requestId signature
  | .confirm action requestId code => confirmBody c m resolve action requestId code
  | .deny requestId => denyBody c m resolve requestId

/-- The sweep comes first: an enrollment can run before maintenance, or cross the deadline of a
recovery between its request and its redeem. -/
def execute (c : Ctx) (action : String) (request : Json) (resolve : Resolve) : StoreM Reply := do
  let call ← Store.ofExcept (parse action request)
  Store.transaction do
    Lifecycle.sweep c
    Store.perform c (markBody c)
    Store.perform c (body c call resolve)

/-! ### Outside of requests -/

/-- Charged before any body is parsed: global, durable and bounded. -/
def rateBody (c : Ctx) (m : Snapshot) : Except Error (Final Unit) := do
  let state := stateOf c m
  let attempts := state.attempts.filter fun at_ => c.now - at_ < 60
  refuse (60 ≤ attempts.length) (.enrollment "rate_limited")
  return .save m (.enrollment { state with attempts := attempts ++ [c.now] } none) (.ok ())

def rateLimit (c : Ctx) : StoreM Unit :=
  Store.transaction do
    Store.perform c (markBody c)
    Store.perform c (rateBody c)

/-- Bind the consumed rows one after the other; what is bound stays in memory on an error. -/
def bindConsumed (m : Snapshot) : List Row → Snapshot × Except Error Unit
  | [] => (m, .ok ())
  | row :: rest =>
    if row.state = .consumed then
      match Lifecycle.bindEnrollment m row with
      | .error e => (m, .error e)
      | .ok life => bindConsumed { m with lifecycle := some life } rest
    else bindConsumed m rest

def bindBody (m : Snapshot) : Except Error (Final Unit) :=
  match bindConsumed m m.requests.values with
  | (staged, .error e) => .ok (.raise staged e)
  | (staged, .ok ()) =>
    if staged.lifecycle.isSome then .ok (.save staged (.replace staged.records) (.ok ()))
    else .ok (.reply ())

/-- `initialize`: persist what lost its authority, and the bindings of consumed requests before
enrollment prunes them. -/
def init (c : Ctx) : StoreM Unit :=
  Store.transaction do
    Store.perform c (markBody c)
    Store.perform c bindBody

end Enrollment

end Vauxr
