import Vauxr.Lib.Run
import Vauxr.LifecycleSpec
import Vauxr.Owner

/-!
The system: the calls that reach the authorization store, what each of them does, and its runs.
-/

namespace Vauxr

open Lib

/-- The operations of the server and of the owner console on one store. `start` is the start of
a new process on the files as they stand, `reload` a bare reload. `replace` and `stage` reach
below the services: they are the internal boundaries of the store and of the lifecycle. -/
inductive Call
  | console (recover : Bool)
  | ownerRate
  | claim (code : Json)
  | acknowledge (acknowledgement saved : Json)
  | login (token : Json)
  | session (cookie : String)
  | logout (cookie : String)
  | ownerInit
  | enrollment (action : String) (body : Json) (resolve : Resolve)
  | enrollmentRate
  | lifecycle (action : String) (body : Json) (resolve : Resolve)
  | lifecycleSweep
  | integration (action : String) (body : Json) (resolve : Resolve)
  | integrationSweep
  | start
  | reload
  | replace (records : List Credential)
  | stage (row : Enrollment.Row) (credential : Credential)

/-- The calls of the services, as against those that reach below them. -/
def Call.service : Call → Bool
  | .replace _ | .stage _ _ => false
  | _ => true

inductive Reply
  | unit
  | code (code : String)
  | claimed (claimed : Owner.Claimed)
  | login (cookie : String) (session : Owner.Session)
  | session (session : Option (Principal × Owner.Session))
  | enrollment (reply : Enrollment.Reply)
  | lifecycle (reply : Lifecycle.Reply)
  | integration (reply : Integration.Reply)
  | records (records : List Credential)
  deriving DecidableEq

namespace System

/-- The start hooks, in their order. -/
def startHooks (c : Ctx) : StoreM Unit := do
  Lifecycle.sweep c
  Owner.init c
  Enrollment.init c
  Integration.sweep c
  Store.loadAgents c

/-- A failed start ends the process; the next one loads the file again. -/
def start (c : Ctx) : StoreM Unit := do
  modify fun w => { w with registry := { w.registry with loaded := none } }
  Store.load
  tryCatch (startHooks c) fun e => do
    Store.load
    throw e

/-- `replace_enrollment_credential`: what it stages stays in memory. -/
def stage (row : Enrollment.Row) (credential : Credential) : StoreM (List Credential) := do
  let (staged, records) ← Store.ofExcept
    (Lifecycle.replaceEnrollmentCredential (← Store.mem) row credential)
  Store.setMem staged
  Store.ofExcept records

def exec (c : Ctx) : Call → StoreM Reply
  | .console recover => return .code (← Owner.consoleClaim c recover)
  | .ownerRate => do
    Owner.rateLimit c
    return .unit
  | .claim code => return .claimed (← Owner.claim c code)
  | .acknowledge acknowledgement saved => do
    Owner.acknowledge c acknowledgement saved
    return .unit
  | .login token => do
    let (cookie, session) ← Owner.login c token
    return .login cookie session
  | .session cookie => return .session (← Owner.session c cookie)
  | .logout cookie => do
    Owner.logout c cookie
    return .unit
  | .ownerInit => do
    Owner.init c
    return .unit
  | .enrollment action body resolve =>
    return .enrollment (← Enrollment.execute c action body resolve)
  | .enrollmentRate => do
    Enrollment.rateLimit c
    return .unit
  | .lifecycle action body resolve =>
    return .lifecycle (← Lifecycle.execute c action body resolve)
  | .lifecycleSweep => do
    Lifecycle.sweep c
    return .unit
  | .integration action body resolve =>
    return .integration (← Integration.execute c action body resolve)
  | .integrationSweep => do
    Integration.sweep c
    return .unit
  | .start => do
    start c
    return .unit
  | .reload => do
    Store.load
    return .unit
  | .replace records => do
    Store.replace c records
    return .unit
  | .stage row credential => return .records (← stage row credential)

end System

/-- One step of the system: a call, what it takes from outside, and the faults its writes meet. -/
structure Step where
  ctx : Ctx
  call : Call
  faults : List Fault

def Step.result (w : World) (s : Step) : Except Error Reply :=
  (outcome (System.exec s.ctx s.call) { w with faults := s.faults }).1

def Step.next (w : World) (s : Step) : World :=
  (outcome (System.exec s.ctx s.call) { w with faults := s.faults }).2

/-- The world after `n` steps from an empty store. -/
def worldAt (σ : ℕ → Step) (n : ℕ) : World := run Step.next (World.initial []) σ n

/-- The snapshots a world has committed, the latest first. -/
def World.committed (w : World) : List Snapshot :=
  w.files.filterMap fun j => (Codec.load (some j)).toOption

end Vauxr
