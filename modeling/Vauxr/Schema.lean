import Mathlib.Data.Rat.Floor
import Vauxr.Policy

/-!
The persisted namespaces and their validators: credentials and owner state (`auth/store.py`),
enrollment, lifecycle and integration rows (the three schema modules of `provisioning`).

A namespace that was never written is the empty object, here `none`. The checks on the shape
of a value (which keys, which types) are made where JSON is read; what stands here are the
checks on the values themselves.
-/

namespace Vauxr

open Lib

/-! ### Text -/

def isHex (c : Char) : Bool := ('0' ≤ c && c ≤ '9') || ('a' ≤ c && c ≤ 'f')

def isAlnum (c : Char) : Bool :=
  ('0' ≤ c && c ≤ '9') || ('a' ≤ c && c ≤ 'z') || ('A' ≤ c && c ≤ 'Z')

/-- `[0-9a-f]{length}` -/
def hexString (s : String) (length : ℕ) : Bool :=
  s.toList.length == length && s.toList.all isHex

/-- A first character, then up to `rest` more, each from its own class. -/
def headThen (head tail : Char → Bool) (rest : ℕ) (s : String) : Bool :=
  match s.toList with
  | [] => false
  | c :: cs => head c && cs.all tail && cs.length ≤ rest

/-- `[A-Za-z0-9][A-Za-z0-9_.:-]{0,127}` -/
def idString (s : String) : Bool :=
  headThen isAlnum (fun c => isAlnum c || c ∈ ['_', '.', ':', '-']) 127 s

def isAscii (s : String) : Bool := s.toList.all fun c => c.toNat < 128

def timestamp (q : ℚ) : Bool := 0 ≤ q

/-- What `secrets.token_hex` and `hexdigest` return. -/
abbrev Hex (length : ℕ) := {s : String // hexString s length = true}

/-- The sentinel digest of a terminal row that never had a code. -/
def zeroDigest : String := String.ofList (List.replicate 64 '0')

lemma isHex_isAlnum {c : Char} (h : isHex c = true) : isAlnum c = true := by
  simp only [isHex, isAlnum, Bool.or_eq_true, Bool.and_eq_true, decide_eq_true_eq] at h ⊢
  rcases h with h | ⟨h1, h2⟩
  · exact Or.inl (Or.inl h)
  · have h3 : c ≤ 'z' := Char.le_trans h2 (show 'f' ≤ 'z' by decide)
    exact Or.inl (Or.inr ⟨h1, h3⟩)

/-! ### Credentials -/

def validCredential (id subject verifier : String) : Bool :=
  idString id && idString subject && hexString verifier 64

structure Credential where
  id : String
  role : Role
  subject : String
  verifier : String
  enabled : Bool
  valid : validCredential id subject verifier = true
  deriving DecidableEq

lemma Credential.verifier_hex (r : Credential) : hexString r.verifier 64 = true := by
  have := r.valid
  simp only [validCredential, Bool.and_eq_true] at this
  exact this.2

/-! ### Owner state -/

inductive OwnerMode
  | unclaimed | recovery | generated | environment
  deriving DecidableEq

def OwnerMode.value : OwnerMode → String
  | .unclaimed => "unclaimed"
  | .recovery => "recovery"
  | .generated => "generated"
  | .environment => "environment"

def OwnerMode.ofValue? (s : String) : Option OwnerMode :=
  [OwnerMode.unclaimed, .recovery, .generated, .environment].find? fun m => m.value == s

@[simp] lemma OwnerMode.ofValue?_value (m : OwnerMode) : OwnerMode.ofValue? m.value = some m := by
  cases m <;> rfl

def OwnerMode.active (m : OwnerMode) : Bool := m = .generated || m = .environment

structure Pending where
  verifier : String
  ack : String
  expires : ℚ
  deriving DecidableEq

structure Sessions where
  origin : String
  entries : Dict String ℚ
  deriving DecidableEq

structure OwnerState where
  mode : OwnerMode
  generation : String
  verifier : Option String
  claim : Option String
  claimExpires : Option ℚ
  claimAttempts : Option ℤ
  pending : Option Pending
  attempts : Option (List ℚ)
  sessions : Option Sessions
  deriving DecidableEq

def validatePending (p : Pending) : Bool :=
  hexString p.verifier 64 && hexString p.ack 64 && timestamp p.expires

def validateSessions (active : Bool) (s : Sessions) : Bool :=
  hexString s.origin 64 && s.entries.size ≤ 100 && (active || s.entries.size == 0) &&
    s.entries.entries.all fun e => hexString e.1 64 && timestamp e.2

def validateOwnerState : Option OwnerState → Bool
  | none => true
  | some s =>
    hexString s.generation 32 &&
    (if s.mode.active then
      s.verifier.any (hexString · 64) && s.claim.isNone && s.claimExpires.isNone &&
        s.claimAttempts.isNone && s.pending.isNone
    else s.verifier.isNone) &&
    s.claim.all (fun c =>
      hexString c 64 && s.pending.isNone && s.claimExpires.isSome && s.claimAttempts.isSome) &&
    s.claimExpires.all timestamp &&
    s.claimAttempts.all (fun n => 0 ≤ n && n ≤ 5) &&
    s.pending.all validatePending &&
    s.sessions.all (validateSessions s.mode.active) &&
    s.attempts.all (fun l => l.length ≤ 10 && l.all timestamp)

/-! ### Enrollment -/

namespace Enrollment

def maxRequests : ℕ := 64

def ttl : ℤ := 300

inductive Kind
  | physical | browser
  deriving DecidableEq

def Kind.value : Kind → String
  | .physical => "physical"
  | .browser => "browser"

def Kind.ofValue? (s : String) : Option Kind :=
  [Kind.physical, .browser].find? fun k => k.value == s

@[simp] lemma Kind.ofValue?_value (k : Kind) : Kind.ofValue? k.value = some k := by
  cases k <;> rfl

/-- `expired` is only ever computed; a stored row never holds it. -/
inductive Status
  | challenge | ready | initiated | approved
  | consumed | denied | cancelled | failed | expired | stale
  deriving DecidableEq

def Status.value : Status → String
  | .challenge => "challenge"
  | .ready => "ready"
  | .initiated => "initiated"
  | .approved => "approved"
  | .consumed => "consumed"
  | .denied => "denied"
  | .cancelled => "cancelled"
  | .failed => "failed"
  | .expired => "expired"
  | .stale => "stale"

def Status.ofValue? (s : String) : Option Status :=
  [Status.challenge, .ready, .initiated, .approved, .consumed, .denied, .cancelled, .failed,
    .expired, .stale].find? fun m => m.value == s

@[simp] lemma Status.ofValue?_value (m : Status) : Status.ofValue? m.value = some m := by
  cases m <;> rfl

def Status.terminal (s : Status) : Bool :=
  s ∈ [Status.consumed, .denied, .cancelled, .failed, .expired, .stale]

structure Row where
  requestId : String
  serverId : String
  origin : String
  kind : Kind
  publicKey : String
  deviceId : String
  nonce : String
  expiresAt : ℤ
  ownerGeneration : String
  displayName : String
  state : Status
  attempts : ℤ
  codeHash : String
  initiator : Option Principal
  approver : Option Principal
  deriving DecidableEq

structure State where
  serverId : String
  requests : Dict String Row
  attempts : List ℚ
  deriving DecidableEq

/-- `[A-Za-z0-9 _.-]{1,64}` -/
def displayName (s : String) : Bool :=
  1 ≤ s.toList.length && s.toList.length ≤ 64 &&
    s.toList.all fun c => isAlnum c || c ∈ [' ', '_', '.', '-']

def validateActor (kind : Kind) (actor : Principal) : Bool :=
  (actor.role = .owner || actor.role = .integration) &&
    actor.subject.length ≤ 128 && actor.credentialId.length ≤ 128 &&
    actor.credentialGeneration.length ≤ 128 &&
    !(kind = .browser && actor.role ≠ .owner) &&
    (if actor.role = .owner then
      actor.subject == "owner" && actor.credentialGeneration == "" &&
        hexString actor.credentialId 32
    else hexString actor.credentialGeneration 64)

def validateRow (serverId key : String) (row : Row) : Bool :=
  key == row.requestId && hexString key 32 &&
  row.serverId == serverId &&
  (row.origin.startsWith "http://" || row.origin.startsWith "https://") &&
  row.origin.length ≤ 256 && isAscii row.origin &&
  hexString row.publicKey 64 && hexString row.nonce 64 &&
  idString row.deviceId &&
  timestamp row.expiresAt &&
  hexString row.ownerGeneration 32 &&
  displayName row.displayName &&
  row.state ≠ .expired &&
  (0 ≤ row.attempts && row.attempts ≤ 5) &&
  (row.codeHash == "" || hexString row.codeHash 64) &&
  (row.state = .challenge || hexString row.codeHash 64) &&
  row.initiator.all (validateActor row.kind) && row.approver.all (validateActor row.kind) &&
  !(row.state ∈ [Status.initiated, .approved, .consumed] && row.initiator.isNone) &&
  !(row.state ∈ [Status.approved, .consumed] && row.approver.isNone)

end Enrollment

def validateEnrollment : Option Enrollment.State → Bool
  | none => true
  | some s =>
    hexString s.serverId 32 &&
    s.attempts.length ≤ 60 && s.attempts.all timestamp &&
    s.requests.size ≤ Enrollment.maxRequests &&
    s.requests.entries.all fun e => Enrollment.validateRow s.serverId e.1 e.2

/-! ### Lifecycle -/

namespace Lifecycle

def limit : ℕ := 1024

def operationLimit : ℕ := 3 * limit

def tombstoneLimit : ℕ := 65536

inductive Action
  | rotate | revoke | recover
  deriving DecidableEq

def Action.value : Action → String
  | .rotate => "rotate"
  | .revoke => "revoke"
  | .recover => "recover"

def Action.ofValue? (s : String) : Option Action :=
  [Action.rotate, .revoke, .recover].find? fun a => a.value == s

@[simp] lemma Action.ofValue?_value (a : Action) : Action.ofValue? a.value = some a := by
  cases a <;> rfl

inductive Phase
  | queued | pending | delivered | acknowledged | completed | expired | revoked
  deriving DecidableEq

def Phase.value : Phase → String
  | .queued => "queued"
  | .pending => "pending"
  | .delivered => "delivered"
  | .acknowledged => "acknowledged"
  | .completed => "completed"
  | .expired => "expired"
  | .revoked => "revoked"

def Phase.ofValue? (s : String) : Option Phase :=
  [Phase.queued, .pending, .delivered, .acknowledged, .completed, .expired, .revoked].find?
    fun p => p.value == s

@[simp] lemma Phase.ofValue?_value (p : Phase) : Phase.ofValue? p.value = some p := by
  cases p <;> rfl

def Phase.terminal (p : Phase) : Bool := p ∈ [Phase.completed, .expired, .revoked]

structure Row where
  operationId : String
  role : Role
  subject : String
  action : Action
  state : Phase
  expiresAt : ℚ
  overlapUntil : ℚ
  credentialId : String
  oldIds : List String
  ownerGeneration : String
  origin : String
  deriving DecidableEq

structure Binding where
  publicKey : String
  kind : Enrollment.Kind
  deriving DecidableEq

structure Recovery where
  operationId : String
  requestId : String
  deriving DecidableEq

structure State where
  operations : Dict String Row
  blocked : List String
  bindings : Dict String Binding
  recovery : Dict String Recovery
  deriving DecidableEq

def emptyState : State := ⟨Dict.empty, [], Dict.empty, Dict.empty⟩

def validateOperation (key : String) (row : Row) : Bool :=
  hexString key 32 && row.operationId == key &&
  (row.role = .device || row.role = .integration) &&
  (1 ≤ row.subject.length && row.subject.length ≤ 128) &&
  timestamp row.expiresAt && timestamp row.overlapUntil &&
  row.oldIds.length ≤ limit && row.oldIds.all idString &&
  hexString row.ownerGeneration 32 &&
  row.overlapUntil ≤ row.expiresAt &&
  !(row.state ∈ [Phase.delivered, .acknowledged, .completed] && !hexString row.credentialId 32) &&
  !(row.action = .revoke && row.state ≠ .revoked)

def validateRecovery (s : State) (subject : String) (row : Recovery) : Bool :=
  (s.bindings.get? subject).isSome &&
  (row.requestId == "" || hexString row.requestId 32) &&
  match s.operations.get? row.operationId with
  | none => false
  | some op => op.subject == subject && op.role = .device && op.action = .recover

end Lifecycle

def validateLifecycle : Option Lifecycle.State → Bool
  | none => true
  | some s =>
    s.blocked.length ≤ Lifecycle.tombstoneLimit && s.blocked.Nodup &&
    s.blocked.all (hexString · 64) &&
    s.operations.size ≤ Lifecycle.operationLimit && s.bindings.size ≤ Lifecycle.limit &&
    s.recovery.size ≤ Lifecycle.limit &&
    s.operations.entries.all (fun e => Lifecycle.validateOperation e.1 e.2) &&
    s.bindings.entries.all (fun e => hexString e.2.publicKey 64 && idString e.1) &&
    s.recovery.entries.all fun e => Lifecycle.validateRecovery s e.1 e.2

/-- Reserve one tombstone per admitted verifier and one revoke per liability. -/
def hasCapacity (state : Option Lifecycle.State) (digests : List String) : Bool :=
  let blocked := state.elim [] (·.blocked)
  let unblocked := digests.dedup.filter (· ∉ blocked)
  let operations := state.elim Dict.empty (·.operations)
  let unfinished := operations.values.countP fun row => !row.state.terminal
  digests.length ≤ Lifecycle.limit &&
    (blocked ++ digests).dedup.length ≤ Lifecycle.tombstoneLimit &&
    operations.size + unblocked.length + unfinished ≤ Lifecycle.operationLimit

/-! ### Integration -/

namespace Integration

def limit : ℕ := 1024

inductive Status
  | pending | approved | delivered | completed
  | denied | cancelled | failed | expired | stale | revoked
  deriving DecidableEq

def Status.value : Status → String
  | .pending => "pending"
  | .approved => "approved"
  | .delivered => "delivered"
  | .completed => "completed"
  | .denied => "denied"
  | .cancelled => "cancelled"
  | .failed => "failed"
  | .expired => "expired"
  | .stale => "stale"
  | .revoked => "revoked"

def Status.ofValue? (s : String) : Option Status :=
  [Status.pending, .approved, .delivered, .completed, .denied, .cancelled, .failed, .expired,
    .stale, .revoked].find? fun m => m.value == s

@[simp] lemma Status.ofValue?_value (m : Status) : Status.ofValue? m.value = some m := by
  cases m <;> rfl

def Status.terminal (s : Status) : Bool := !(s ∈ [Status.pending, .approved, .delivered])

structure Row where
  requestId : String
  serverId : String
  origin : String
  agentId : String
  displayName : String
  expiresAt : ℚ
  createdAt : ℚ
  state : Status
  attempts : ℤ
  secretHash : String
  codeHash : String
  ownerGeneration : String
  credentialId : String
  deriving DecidableEq

structure State where
  requests : Dict String Row
  deriving DecidableEq

def emptyState : State := ⟨Dict.empty⟩

/-- `[A-Za-z0-9][A-Za-z0-9 ._()-]{0,63}` -/
def displayName (s : String) : Bool :=
  headThen isAlnum (fun c => isAlnum c || c ∈ [' ', '.', '_', '(', ')', '-']) 63 s

def validateRow (key : String) (row : Row) : Bool :=
  hexString key 32 && row.requestId == key && row.agentId == "int_" ++ key &&
  hexString row.serverId 32 && displayName row.displayName &&
  hexString row.secretHash 64 && hexString row.codeHash 64 &&
  hexString row.ownerGeneration 32 &&
  (0 ≤ row.attempts && row.attempts ≤ 5) &&
  timestamp row.expiresAt && timestamp row.createdAt &&
  (row.credentialId == "" || hexString row.credentialId 32) &&
  !(row.state ∈ [Status.delivered, .completed] && row.credentialId == "")

end Integration

def validateIntegration : Option Integration.State → Bool
  | none => true
  | some s =>
    s.requests.size ≤ Integration.limit &&
    s.requests.entries.all fun e => Integration.validateRow e.1 e.2

end Vauxr
