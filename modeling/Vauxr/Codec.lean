import Vauxr.Snapshot

/-!
The file `authz.json`: what `replace` writes and what `load` accepts.

Every reader asks for exactly the keys of its row and for the type of every field; the value
checks are the validators of the schema. The writer emits schema version 2 and raises it to
3, 4 or 5 with the last namespace that is not empty; the reader also accepts version 1.
-/

namespace Vauxr

open Lib

namespace Codec

def field {α : Type} (d : Dict String Json) (name : String) (read : Json → Option α) : Option α :=
  (d.get? name).bind read

/-- A field that may be missing, but reads when it is there. -/
def optionalField {α : Type} (d : Dict String Json) (name : String) (read : Json → Option α) :
    Option (Option α) :=
  match d.get? name with
  | none => some none
  | some j => (read j).map some

/-- An object with exactly the given keys. -/
def exactly (j : Json) (names : List String) : Option (Dict String Json) :=
  j.obj?.filter (Json.hasKeys · names)

/-- An object with the required keys and no others than these and the optional ones. -/
def within (j : Json) (required allowed : List String) : Option (Dict String Json) :=
  j.obj?.filter fun d => required.all (· ∈ d.keys) && d.keys.all (· ∈ required ++ allowed)

/-- `null`, or a value. -/
def nullable {α : Type} (read : Json → Option α) : Json → Option (Option α)
  | .null => some none
  | j => (read j).map some

def readEnum {α : Type} (ofValue? : String → Option α) (j : Json) : Option α := j.str?.bind ofValue?

/-- The version field of a namespace: the integer one. -/
def versionOne (d : Dict String Json) : Option Unit :=
  (field d "version" Json.int?).bind fun n => if n = 1 then some () else none

/-! ### Credentials -/

def writeCredential (r : Credential) : Json :=
  .obj [("id", .str r.id), ("role", .str r.role.value), ("subject", .str r.subject),
    ("verifier", .str r.verifier), ("enabled", .bool r.enabled)]

def readCredential (j : Json) : Option Credential := do
  let d ← within j ["id", "role", "subject", "verifier"] ["enabled"]
  let id ← field d "id" Json.str?
  let role ← field d "role" (readEnum Role.ofValue?)
  let subject ← field d "subject" Json.str?
  let verifier ← field d "verifier" Json.str?
  let enabled ← optionalField d "enabled" Json.bool?
  if h : validCredential id subject verifier = true then
    some ⟨id, role, subject, verifier, enabled.getD true, h⟩
  else none

/-! ### Owner -/

def writePending (p : Pending) : Json :=
  .obj [("verifier", .str p.verifier), ("ack", .str p.ack), ("expires", .number p.expires)]

def readPending (j : Json) : Option Pending := do
  let d ← exactly j ["verifier", "ack", "expires"]
  let verifier ← field d "verifier" Json.str?
  let ack ← field d "ack" Json.str?
  let expires ← field d "expires" Json.number?
  return ⟨verifier, ack, expires⟩

def writeSession (expires : ℚ) : Json := .obj [("expires", .number expires)]

def readSession (j : Json) : Option ℚ := do
  let d ← exactly j ["expires"]
  field d "expires" Json.number?

def writeSessions (s : Sessions) : Json :=
  .obj [("origin", .str s.origin), ("entries", .ofDict writeSession s.entries)]

def readSessions (j : Json) : Option Sessions := do
  let d ← exactly j ["origin", "entries"]
  let origin ← field d "origin" Json.str?
  let entries ← field d "entries" (Json.dict? readSession)
  return ⟨origin, entries⟩

/-- The fields of an object some of which are only written when they are there. -/
def present (fields : List (String × Option Json)) : List (String × Json) :=
  fields.filterMap fun e => e.2.map fun j => (e.1, j)

def writeOwner : Option OwnerState → Json
  | none => .obj []
  | some s =>
    .obj (present [("version", some (.int 1)), ("mode", some (.str s.mode.value)),
      ("generation", some (.str s.generation)), ("verifier", s.verifier.map .str),
      ("claim", s.claim.map .str), ("claim_expires", s.claimExpires.map .number),
      ("claim_attempts", s.claimAttempts.map .int), ("pending", s.pending.map writePending),
      ("attempts", s.attempts.map (.ofList .number)),
      ("sessions", s.sessions.map writeSessions)])

def readOwner (j : Json) : Option (Option OwnerState) := do
  let d ← j.obj?
  if d.size = 0 then return none
  let d ← within j ["version", "mode", "generation"]
    ["verifier", "claim", "claim_expires", "claim_attempts", "pending", "attempts", "sessions"]
  versionOne d
  let mode ← field d "mode" (readEnum OwnerMode.ofValue?)
  let generation ← field d "generation" Json.str?
  let verifier ← optionalField d "verifier" Json.str?
  let claim ← optionalField d "claim" Json.str?
  let claimExpires ← optionalField d "claim_expires" Json.number?
  let claimAttempts ← optionalField d "claim_attempts" Json.int?
  let pending ← optionalField d "pending" readPending
  let attempts ← optionalField d "attempts" (Json.list? Json.number?)
  let sessions ← optionalField d "sessions" readSessions
  return some ⟨mode, generation, verifier, claim, claimExpires, claimAttempts, pending, attempts,
    sessions⟩

/-! ### Enrollment -/

def writeActor (p : Principal) : Json :=
  .obj [("role", .str p.role.value), ("subject", .str p.subject),
    ("credential_id", .str p.credentialId),
    ("credential_generation", .str p.credentialGeneration)]

def readActor (j : Json) : Option Principal := do
  let d ← exactly j ["role", "subject", "credential_id", "credential_generation"]
  let role ← field d "role" (readEnum Role.ofValue?)
  let subject ← field d "subject" Json.str?
  let credentialId ← field d "credential_id" Json.str?
  let credentialGeneration ← field d "credential_generation" Json.str?
  return ⟨role, subject, credentialId, credentialGeneration⟩

def writeNullable {α : Type} (write : α → Json) : Option α → Json
  | none => .null
  | some a => write a

def writeRequest (r : Enrollment.Row) : Json :=
  .obj [("version", .int 1), ("request_id", .str r.requestId), ("server_id", .str r.serverId),
    ("origin", .str r.origin), ("kind", .str r.kind.value), ("public_key", .str r.publicKey),
    ("display_name", .str r.displayName), ("nonce", .str r.nonce),
    ("expires_at", .int r.expiresAt), ("owner_generation", .str r.ownerGeneration),
    ("state", .str r.state.value), ("attempts", .int r.attempts), ("code_hash", .str r.codeHash),
    ("initiator", writeNullable writeActor r.initiator),
    ("approver", writeNullable writeActor r.approver), ("device_id", .str r.deviceId)]

def readRequest (j : Json) : Option Enrollment.Row := do
  let d ← exactly j ["version", "request_id", "server_id", "origin", "kind", "public_key",
    "device_id", "nonce", "expires_at", "owner_generation", "display_name", "state", "attempts",
    "code_hash", "initiator", "approver"]
  versionOne d
  let requestId ← field d "request_id" Json.str?
  let serverId ← field d "server_id" Json.str?
  let origin ← field d "origin" Json.str?
  let kind ← field d "kind" (readEnum Enrollment.Kind.ofValue?)
  let publicKey ← field d "public_key" Json.str?
  let deviceId ← field d "device_id" Json.str?
  let nonce ← field d "nonce" Json.str?
  let expiresAt ← field d "expires_at" Json.int?
  let ownerGeneration ← field d "owner_generation" Json.str?
  let displayName ← field d "display_name" Json.str?
  let state ← field d "state" (readEnum Enrollment.Status.ofValue?)
  let attempts ← field d "attempts" Json.int?
  let codeHash ← field d "code_hash" Json.str?
  let initiator ← field d "initiator" (nullable readActor)
  let approver ← field d "approver" (nullable readActor)
  return ⟨requestId, serverId, origin, kind, publicKey, deviceId, nonce, expiresAt,
    ownerGeneration, displayName, state, attempts, codeHash, initiator, approver⟩

def writeEnrollment : Option Enrollment.State → Json
  | none => .obj []
  | some s =>
    .obj [("version", .int 1), ("server_id", .str s.serverId),
      ("requests", .ofDict writeRequest s.requests), ("attempts", .ofList .number s.attempts)]

def readEnrollment (j : Json) : Option (Option Enrollment.State) := do
  let d ← j.obj?
  if d.size = 0 then return none
  let d ← exactly j ["version", "server_id", "requests", "attempts"]
  versionOne d
  let serverId ← field d "server_id" Json.str?
  let requests ← field d "requests" (Json.dict? readRequest)
  let attempts ← field d "attempts" (Json.list? Json.number?)
  return some ⟨serverId, requests, attempts⟩

/-! ### Lifecycle -/

def writeOperation (r : Lifecycle.Row) : Json :=
  .obj [("operation_id", .str r.operationId), ("role", .str r.role.value),
    ("subject", .str r.subject), ("action", .str r.action.value), ("state", .str r.state.value),
    ("expires_at", .number r.expiresAt), ("overlap_until", .number r.overlapUntil),
    ("credential_id", .str r.credentialId), ("old_ids", .ofList .str r.oldIds),
    ("owner_generation", .str r.ownerGeneration), ("origin", .str r.origin)]

def readOperation (j : Json) : Option Lifecycle.Row := do
  let d ← exactly j ["operation_id", "role", "subject", "action", "state", "expires_at",
    "overlap_until", "credential_id", "old_ids", "owner_generation", "origin"]
  let operationId ← field d "operation_id" Json.str?
  let role ← field d "role" (readEnum Role.ofValue?)
  let subject ← field d "subject" Json.str?
  let action ← field d "action" (readEnum Lifecycle.Action.ofValue?)
  let state ← field d "state" (readEnum Lifecycle.Phase.ofValue?)
  let expiresAt ← field d "expires_at" Json.number?
  let overlapUntil ← field d "overlap_until" Json.number?
  let credentialId ← field d "credential_id" Json.str?
  let oldIds ← field d "old_ids" (Json.list? Json.str?)
  let ownerGeneration ← field d "owner_generation" Json.str?
  let origin ← field d "origin" Json.str?
  return ⟨operationId, role, subject, action, state, expiresAt, overlapUntil, credentialId, oldIds,
    ownerGeneration, origin⟩

def writeBinding (b : Lifecycle.Binding) : Json :=
  .obj [("public_key", .str b.publicKey), ("kind", .str b.kind.value)]

def readBinding (j : Json) : Option Lifecycle.Binding := do
  let d ← exactly j ["public_key", "kind"]
  let publicKey ← field d "public_key" Json.str?
  let kind ← field d "kind" (readEnum Enrollment.Kind.ofValue?)
  return ⟨publicKey, kind⟩

def writeRecovery (r : Lifecycle.Recovery) : Json :=
  .obj [("operation_id", .str r.operationId), ("request_id", .str r.requestId)]

def readRecovery (j : Json) : Option Lifecycle.Recovery := do
  let d ← exactly j ["operation_id", "request_id"]
  let operationId ← field d "operation_id" Json.str?
  let requestId ← field d "request_id" Json.str?
  return ⟨operationId, requestId⟩

def writeLifecycle : Option Lifecycle.State → Json
  | none => .obj []
  | some s =>
    .obj [("version", .int 1), ("operations", .ofDict writeOperation s.operations),
      ("blocked", .ofList .str s.blocked), ("bindings", .ofDict writeBinding s.bindings),
      ("recovery", .ofDict writeRecovery s.recovery)]

def readLifecycle (j : Json) : Option (Option Lifecycle.State) := do
  let d ← j.obj?
  if d.size = 0 then return none
  let d ← exactly j ["version", "operations", "blocked", "bindings", "recovery"]
  versionOne d
  let operations ← field d "operations" (Json.dict? readOperation)
  let blocked ← field d "blocked" (Json.list? Json.str?)
  let bindings ← field d "bindings" (Json.dict? readBinding)
  let recovery ← field d "recovery" (Json.dict? readRecovery)
  return some ⟨operations, blocked, bindings, recovery⟩

/-! ### Integration -/

def writeAgent (r : Integration.Row) : Json :=
  .obj [("request_id", .str r.requestId), ("server_id", .str r.serverId),
    ("origin", .str r.origin), ("agent_id", .str r.agentId),
    ("display_name", .str r.displayName), ("expires_at", .number r.expiresAt),
    ("created_at", .number r.createdAt), ("state", .str r.state.value),
    ("attempts", .int r.attempts), ("secret_hash", .str r.secretHash),
    ("code_hash", .str r.codeHash), ("owner_generation", .str r.ownerGeneration),
    ("credential_id", .str r.credentialId)]

def readAgent (j : Json) : Option Integration.Row := do
  let d ← exactly j ["request_id", "server_id", "origin", "agent_id", "display_name", "expires_at",
    "state", "secret_hash", "code_hash", "owner_generation", "attempts", "credential_id",
    "created_at"]
  let requestId ← field d "request_id" Json.str?
  let serverId ← field d "server_id" Json.str?
  let origin ← field d "origin" Json.str?
  let agentId ← field d "agent_id" Json.str?
  let displayName ← field d "display_name" Json.str?
  let expiresAt ← field d "expires_at" Json.number?
  let createdAt ← field d "created_at" Json.number?
  let state ← field d "state" (readEnum Integration.Status.ofValue?)
  let attempts ← field d "attempts" Json.int?
  let secretHash ← field d "secret_hash" Json.str?
  let codeHash ← field d "code_hash" Json.str?
  let ownerGeneration ← field d "owner_generation" Json.str?
  let credentialId ← field d "credential_id" Json.str?
  return ⟨requestId, serverId, origin, agentId, displayName, expiresAt, createdAt, state, attempts,
    secretHash, codeHash, ownerGeneration, credentialId⟩

def writeIntegration : Option Integration.State → Json
  | none => .obj []
  | some s => .obj [("version", .int 1), ("requests", .ofDict writeAgent s.requests)]

def readIntegration (j : Json) : Option (Option Integration.State) := do
  let d ← j.obj?
  if d.size = 0 then return none
  let d ← exactly j ["version", "requests"]
  versionOne d
  let requests ← field d "requests" (Json.dict? readAgent)
  return some ⟨requests⟩

/-! ### The file -/

/-- The schema version `replace` writes a snapshot in. -/
def versionOf (s : Snapshot) : ℤ :=
  if s.integration.isSome then 5
  else if s.lifecycle.isSome then 4
  else if s.enrollment.isSome then 3
  else 2

/-- The payload of `replace`. -/
def payload (s : Snapshot) : Json :=
  let base := [("version", .int (versionOf s)), ("credentials", .ofList writeCredential s.records),
    ("owner", writeOwner s.owner)]
  let enrollment := [("enrollment", writeEnrollment s.enrollment)]
  let lifecycle := [("lifecycle", writeLifecycle s.lifecycle)]
  let integration := [("integration", writeIntegration s.integration)]
  .obj (if s.integration.isSome then base ++ enrollment ++ lifecycle ++ integration
    else if s.lifecycle.isSome then base ++ enrollment ++ lifecycle
    else if s.enrollment.isSome then base ++ enrollment
    else base)

def keysOf (version : ℤ) : List String :=
  if version = 1 then ["version", "credentials"]
  else if version = 2 then ["version", "credentials", "owner"]
  else if version = 3 then ["version", "credentials", "owner", "enrollment"]
  else if version = 4 then ["version", "credentials", "owner", "enrollment", "lifecycle"]
  else if version = 5 then
    ["version", "credentials", "owner", "enrollment", "lifecycle", "integration"]
  else []

/-- A namespace of the file; a version without it reads as the empty one. -/
def readSection {α : Type} (d : Dict String Json) (name : String)
    (read : Json → Option (Option α)) : Except Error (Option α) :=
  match d.get? name with
  | none => .ok none
  | some j => (read j).elim (.error (.config name)) .ok

def require (name : String) (b : Bool) : Except Error Unit :=
  if b then .ok () else .error (.config name)

/-- What `load` makes of the content of the file; an error names the section it was in. -/
def parse (j : Json) : Except Error Snapshot := do
  let d ← j.obj?.elim (.error (.config "$")) .ok
  let version ← (field d "version" Json.int?).elim (.error (.config "$")) .ok
  require "$" (version ∈ [1, 2, 3, 4, 5] && Json.hasKeys d (keysOf version))
  let records ← (field d "credentials" (Json.list? readCredential)).elim
    (.error (.config "credentials")) .ok
  require "credentials" (!ambiguousCredentials records && !ambiguousPrincipals records)
  let owner ← readSection d "owner" readOwner
  require "owner" (validateOwnerState owner)
  let enrollment ← readSection d "enrollment" readEnrollment
  require "enrollment" (validateEnrollment enrollment)
  let lifecycle ← readSection d "lifecycle" readLifecycle
  require "lifecycle" (validateLifecycle lifecycle)
  let integration ← readSection d "integration" readIntegration
  require "integration" (validateIntegration integration)
  require "integration" (!(version = 5 && integration.isNone))
  let s : Snapshot := ⟨records, owner, enrollment, lifecycle, integration⟩
  require "integration" (validateIntegrations s.agents records)
  require "integration" (hasCapacity lifecycle s.digests)
  require "integration" (!(version = 4 && lifecycle.isNone))
  require "integration" (!(version = 3 && enrollment.isNone))
  return s

/-- `load` on the file as it stands; a missing file is the empty snapshot. -/
def load (file : Option Json) : Except Error Snapshot :=
  file.elim (.ok Snapshot.empty) parse

end Codec

end Vauxr
