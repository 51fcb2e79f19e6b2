import Vauxr.Lib.Refine
import Vauxr.CodecClosure
import Vauxr.Platform
import Vauxr.Agents

/-!
The authorization store (`auth/store.py`): what a snapshot authorizes, the state of the process
with its two files, and the writers, each with the faults its atomic write can meet.
-/

namespace Vauxr

open Lib

/-! ### Authority -/

namespace Snapshot

variable (s : Snapshot)

/-- `usable` at time `now`: tombstones override even restored records, and a pending delivery
is bound to its deadline. -/
def usable (now : ℚ) (r : Credential) : Bool :=
  r.enabled && !(r.verifier ∈ s.blocked) &&
  (s.agents.values.all fun row => !(row.credentialId == r.id && row.state ≠ .completed)) &&
  s.operations.values.all fun row =>
    !(row.state = .delivered && row.overlapUntil ≤ now && r.id ∈ row.oldIds) &&
    !(row.credentialId == r.id && row.action ∈ [Lifecycle.Action.rotate, .recover] &&
      (row.state ∈ [Lifecycle.Phase.expired, .revoked] ||
        (row.state = .delivered && row.overlapUntil ≤ now)))

def integrationAgentValid (now : ℚ) (row : Integration.Row) : Bool :=
  row.credentialId != "" && row.state = .completed &&
    s.records.any fun r => r.role = .integration && r.subject == row.agentId && s.usable now r

/-- The agents whose enrollment carries authority. -/
def validAgents (now : ℚ) : List String :=
  (s.agents.values.filter (s.integrationAgentValid now ·)).map (·.agentId)

end Snapshot

namespace Ctx

variable (c : Ctx) (s : Snapshot)

def principalOf (r : Credential) : Principal :=
  ⟨r.role, r.subject, r.id, c.credentialGeneration r.verifier⟩

def authenticate (token : Json) : Option Principal :=
  match token.str? with
  | none => none
  | some token =>
    if token = "" || 512 < token.length then none
    else
      (s.records.find? fun r => c.verifier token == r.verifier && s.usable c.now r).map
        c.principalOf

def current (p : Principal) : Bool :=
  s.records.any fun r =>
    r.id == p.credentialId && r.role = p.role && r.subject == p.subject &&
      c.credentialGeneration r.verifier == p.credentialGeneration && s.usable c.now r

end Ctx

/-! ### The process and its files -/

/-- Where an atomic write fails: before the rename, or at the directory `fsync` after it. -/
inductive Fault
  | none | beforeRename | afterRename
  deriving DecidableEq

/-- `files` lists every content `authz.json` has had, the latest first; `faults` is what the
next atomic writes will meet. -/
structure World where
  files : List Json
  mem : Snapshot
  registry : Agents.Registry
  faults : List Fault
  active : Bool

abbrev StoreM := EStateM Error World

def World.initial (faults : List Fault) : World :=
  ⟨[], Snapshot.empty, ⟨none, none⟩, faults, false⟩

namespace Store

def mem : StoreM Snapshot := do return (← get).mem

def setMem (s : Snapshot) : StoreM Unit := modify fun w => { w with mem := s }

def setActive (b : Bool) : StoreM Unit := modify fun w => { w with active := b }

def ofExcept {α : Type} : Except Error α → StoreM α
  | .ok a => pure a
  | .error e => throw e

def takeFault : StoreM Fault := do
  match (← get).faults with
  | [] => return .none
  | fault :: rest =>
    modify fun w => { w with faults := rest }
    return fault

/-- A write that becomes visible as a whole, or not at all. -/
def atomically (commit : World → World) : StoreM Unit := do
  match ← takeFault with
  | .none => modify commit
  | .beforeRename => throw .os
  | .afterRename => do
    modify commit
    throw .os

def atomicPrivateJson (payload : Json) : StoreM Unit :=
  atomically fun w => { w with files := payload :: w.files }

/-- A failed reload never leaves stale access active. -/
def load : StoreM Unit := do
  setMem Snapshot.empty
  let s ← ofExcept (Codec.load (← get).files.head?)
  setMem s

/-- Inside a transaction this runs `x` alone; otherwise the file is read again first. -/
def transaction {α : Type} (x : StoreM α) : StoreM α := do
  if (← get).active then x
  else do
    load
    setActive true
    tryCatch (do
      let a ← x
      setActive false
      return a) fun e => do
        setActive false
        throw e

/-! ### The agent registry -/

def updateAgents (change : Agents.Document → Except Error Agents.Document) :
    StoreM Agents.Document := do
  match (← get).registry.file with
  | none => throw (.config "$")
  | some d =>
    let d' ← ofExcept (change d)
    if d' ≠ d then
      atomically fun w => { w with registry := { w.registry with file := some d' } }
    return d'

def publishAgents (d : Agents.Document) : StoreM Unit := do
  let d ← ofExcept (Agents.decode d)
  modify fun w => { w with registry := { w.registry with loaded := some d } }

def loadAgents (c : Ctx) : StoreM Unit := do
  modify fun w => { w with registry := { w.registry with loaded := none } }
  let epoch := c.platform.isoformat 0
  match (← get).registry.file with
  | none => do
    let d := Agents.initial c.openclaw epoch
    atomically fun w => { w with registry := { w.registry with file := some d } }
    publishAgents d
  | some d => do
    let d ← ofExcept (Agents.decode d)
    if c.openclaw && !d.agents.any (·.id == "openclaw-direct") then
      publishAgents (← updateAgents (Agents.addDirectChange epoch))
    else publishAgents d

/-- After a failed write the file may hold either document, so it is published again. -/
def commitAgents (change : Agents.Document → Except Error Agents.Document) : StoreM Unit := do
  let d ← tryCatch (updateAgents change) fun e => do
    if e = .os then
      match (← get).registry.file with
      | none => throw (.config "$")
      | some d => publishAgents d
    throw e
  publishAgents d

def registerAgent (c : Ctx) (agent : Agents.Agent) : StoreM Unit := do
  if (← get).registry.loaded.isNone then loadAgents c
  commitAgents (Agents.registerChange agent)

/-- `retire_invalid`: drop the agents that lost their authority with the last write. -/
def retireInvalid (c : Ctx) : StoreM Unit := do
  if (← get).registry.file.isSome then
    let valid := (← mem).validAgents c.now
    publishAgents (← updateAgents (Agents.retireChange valid))

/-! ### Writers -/

/-- Routing that cannot be written now is retired at the next start. -/
def tryRetireInvalid (c : Ctx) : StoreM Unit :=
  tryCatch (retireInvalid c) fun e => if e = .os then pure () else throw e

/-- The rename may have happened before the error: keep the snapshot that is visible now. -/
def recoverVisible (c : Ctx) (e : Error) : StoreM Unit := do
  load
  tryRetireInvalid c
  throw e

def replace (c : Ctx) (records : List Credential) : StoreM Unit := do
  let m ← mem
  let s := { m with records }
  ofExcept (s.check m.records)
  tryCatch (atomicPrivateJson (Codec.payload s)) (recoverVisible c)
  setMem s
  retireInvalid c

/-- Reload the file after any failure, then raise again. -/
def orReload (x : StoreM Unit) : StoreM Unit :=
  tryCatch x fun e => do
    load
    throw e

def saveOwner (c : Ctx) (owner : OwnerState) : StoreM Unit := do
  if !(← get).active then throw (.runtime "Owner writes require a store transaction")
  ofExcept (refuse (!validateOwnerState (some owner)) (.value "Invalid owner state"))
  let m ← mem
  setMem { m with owner := some owner }
  orReload (replace c m.records)

def saveEnrollment (c : Ctx) (enrollment : Enrollment.State)
    (records : Option (List Credential)) : StoreM Unit := do
  if !(← get).active then throw (.runtime "Enrollment writes require a store transaction")
  ofExcept
    (refuse (!validateEnrollment (some enrollment)) (.value "Invalid enrollment state"))
  let m ← mem
  setMem { m with enrollment := some enrollment }
  orReload (replace c (records.getD m.records))

/-- `Lifecycle._save` -/
def saveLifecycle (c : Ctx) (state : Lifecycle.State) (records : List Credential)
    (enrollment : Option (Option Enrollment.State)) : StoreM Unit := do
  let m ← mem
  setMem { m with lifecycle := some state, enrollment := enrollment.getD m.enrollment }
  orReload (replace c records)

/-- `Integration._save` -/
def saveIntegration (c : Ctx) (state : Integration.State) (records : Option (List Credential)) :
    StoreM Unit := do
  let m ← mem
  setMem { m with integration := some state }
  orReload (replace c (records.getD m.records))

end Store

/-! ### Operations over the store -/

/-- The one write an operation ends in, with its arguments. -/
inductive Write
  | owner (state : OwnerState)
  | enrollment (state : Enrollment.State) (records : Option (List Credential))
  | lifecycle (state : Lifecycle.State) (records : List Credential)
      (enrollment : Option (Option Enrollment.State))
  | integration (state : Integration.State) (records : Option (List Credential))
  | replace (records : List Credential)

/-- How an operation ends on the snapshot in memory. `staged` is that snapshot with the
namespaces the operation has already changed in memory when it raises or writes. -/
inductive Final (α : Type)
  | reply (a : α)
  | raise (staged : Snapshot) (e : Error)
  | save (staged : Snapshot) (write : Write) (result : Except Error α)

def Write.run (c : Ctx) : Write → StoreM Unit
  | .owner state => Store.saveOwner c state
  | .enrollment state records => Store.saveEnrollment c state records
  | .lifecycle state records e => Store.saveLifecycle c state records e
  | .integration state records => Store.saveIntegration c state records
  | .replace records => Store.replace c records

/-- Run the body of an operation. An error it ends in leaves memory alone. -/
def Store.perform {α : Type} (c : Ctx) (body : Snapshot → Except Error (Final α)) :
    StoreM α := do
  let final ← Store.ofExcept (body (← Store.mem))
  match final with
  | .reply a => return a
  | .raise staged e => do
    Store.setMem staged
    throw e
  | .save staged write result => do
    Store.setMem staged
    write.run c
    Store.ofExcept result

end Vauxr
