import Vauxr.Schema

/-!
The authorization snapshot: the credential records and the four namespaces that are read,
checked and written together (`CredentialStore`), with the checks that span namespaces.
-/

namespace Vauxr

open Lib

/-- What an operation can raise. `key` is a lookup of a missing table row. -/
inductive Error
  | enrollment (code : String)
  | owner (code : String)
  | value (message : String)
  | config (field : String)
  | runtime (message : String)
  | key
  | os
  deriving DecidableEq

structure Snapshot where
  records : List Credential
  owner : Option OwnerState
  enrollment : Option Enrollment.State
  lifecycle : Option Lifecycle.State
  integration : Option Integration.State
  deriving DecidableEq

namespace Snapshot

def empty : Snapshot := ⟨[], none, none, none, none⟩

def blocked (s : Snapshot) : List String := s.lifecycle.elim [] (·.blocked)

def operations (s : Snapshot) : Dict String Lifecycle.Row :=
  s.lifecycle.elim Dict.empty (·.operations)

def bindings (s : Snapshot) : Dict String Lifecycle.Binding :=
  s.lifecycle.elim Dict.empty (·.bindings)

def recovery (s : Snapshot) : Dict String Lifecycle.Recovery :=
  s.lifecycle.elim Dict.empty (·.recovery)

/-- The enrollment rows. -/
def requests (s : Snapshot) : Dict String Enrollment.Row :=
  s.enrollment.elim Dict.empty (·.requests)

/-- The integration rows. -/
def agents (s : Snapshot) : Dict String Integration.Row :=
  s.integration.elim Dict.empty (·.requests)

def digests (s : Snapshot) : List String := s.records.map (·.verifier)

/-- The generation of the owner state, absent while there is none. -/
def ownerGeneration (s : Snapshot) : Option String := s.owner.map (·.generation)

def ownerActive (s : Snapshot) : Bool := s.owner.any (·.mode.active)

end Snapshot

/-- `_validate`: identifiers and verifiers once each, one owner subject, and one role for
every subject. -/
def ambiguousCredentials (records : List Credential) : Bool :=
  !(records.map (·.id)).Nodup || !(records.map (·.verifier)).Nodup ||
    1 < ((records.filter (·.role = .owner)).map (·.subject)).dedup.length

def ambiguousPrincipals (records : List Credential) : Bool :=
  records.any fun r => records.any fun r' => r.subject == r'.subject && r.role ≠ r'.role

/-- `_validate_integrations`: a row that names a credential names one of its own agent. -/
def validateIntegrations (rows : Dict String Integration.Row) (records : List Credential) : Bool :=
  rows.values.all fun row =>
    row.credentialId == "" ||
      (records.find? fun r => r.id == row.credentialId).any fun r =>
        r.role = .integration && r.subject == row.agentId

/-- An identifier keeps its role, subject and verifier. -/
def mutatesCredential (old records : List Credential) : Bool :=
  records.any fun r =>
    (old.find? fun p => p.id == r.id).any fun p =>
      (p.role, p.subject, p.verifier) ≠ (r.role, r.subject, r.verifier)

namespace Snapshot

/-- The checks a loaded file and a snapshot about to be written have in common. -/
structure Valid (s : Snapshot) : Prop where
  credentials : ambiguousCredentials s.records = false
  principals : ambiguousPrincipals s.records = false
  owner : validateOwnerState s.owner = true
  enrollment : validateEnrollment s.enrollment = true
  lifecycle : validateLifecycle s.lifecycle = true
  integration : validateIntegration s.integration = true
  bound : validateIntegrations s.agents s.records = true
  capacity : hasCapacity s.lifecycle s.digests = true

instance (s : Snapshot) : Decidable s.Valid :=
  decidable_of_iff
    (ambiguousCredentials s.records = false ∧ ambiguousPrincipals s.records = false ∧
      validateOwnerState s.owner = true ∧ validateEnrollment s.enrollment = true ∧
      validateLifecycle s.lifecycle = true ∧ validateIntegration s.integration = true ∧
      validateIntegrations s.agents s.records = true ∧
      hasCapacity s.lifecycle s.digests = true)
    ⟨fun ⟨a, b, c, d, e, f, g, h⟩ => ⟨a, b, c, d, e, f, g, h⟩,
      fun ⟨a, b, c, d, e, f, g, h⟩ => ⟨a, b, c, d, e, f, g, h⟩⟩

lemma valid_empty : empty.Valid := by decide

/-- The checks `replace` makes on the snapshot it is about to write, in their order. -/
def check (old : List Credential) (s : Snapshot) : Except Error Unit :=
  if ambiguousCredentials s.records then .error (.value "Ambiguous credential schema")
  else if ambiguousPrincipals s.records then .error (.value "Ambiguous principal identity")
  else if mutatesCredential old s.records then
    .error (.value "Credential IDs are immutable; replacement requires a new ID")
  else if !validateOwnerState s.owner then .error (.value "Invalid owner state")
  else if !validateEnrollment s.enrollment then .error (.value "Invalid enrollment state")
  else if !validateLifecycle s.lifecycle then .error (.value "Invalid lifecycle state")
  else if !validateIntegration s.integration then .error (.value "Invalid integration state")
  else if !validateIntegrations s.agents s.records then
    .error (.value "Invalid integration credential binding")
  else if !hasCapacity s.lifecycle s.digests then .error (.enrollment "capacity")
  else .ok ()

lemma check_ok_iff (old : List Credential) (s : Snapshot) :
    s.check old = .ok () ↔ s.Valid ∧ mutatesCredential old s.records = false := by
  unfold check
  constructor
  · intro h
    repeat' split at h
    all_goals first
      | contradiction
      | exact ⟨⟨by simp_all, by simp_all, by simp_all, by simp_all, by simp_all,
          by simp_all, by simp_all, by simp_all⟩, by simp_all⟩
  · rintro ⟨⟨h1, h2, h3, h4, h5, h6, h7, h8⟩, h9⟩
    simp [h1, h2, h3, h4, h5, h6, h7, h8, h9]

end Snapshot

end Vauxr
