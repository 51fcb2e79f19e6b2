import Vauxr.Lib.Json

/-!
Roles, principals, and the transport-independent policy (`auth/policy.py`).
-/

namespace Vauxr

inductive Role
  | owner | integration | device
  deriving DecidableEq

def Role.value : Role → String
  | .owner => "owner"
  | .integration => "integration"
  | .device => "device"

def Role.ofValue? (s : String) : Option Role :=
  [Role.owner, .integration, .device].find? fun r => r.value == s

@[simp] lemma Role.ofValue?_value (r : Role) : Role.ofValue? r.value = some r := by
  cases r <;> rfl

inductive Operation
  | devicesList | deviceConfig | speechConfig | announce | control | playback
  | firmwareInitiate | firmwareDeliveryMint | firmwareRead | firmwarePublish
  | agentList | agentConfig
  | credentialCreate | credentialDisclose | credentialRotate | credentialRevoke
  | serverManage | ownerAdmin | webhookConfig
  | pairInitiate | pairApprove
  | deviceConnect | deviceAudio | deviceControl | deviceButton | realtimeOffer
  | agentConnect | voiceResponse
  deriving DecidableEq

/-- `credentialGeneration` is the verifier-derived identity of the credential; policy-only
principals leave it empty. -/
structure Principal where
  role : Role
  subject : String
  credentialId : String
  credentialGeneration : String
  deriving DecidableEq

namespace Policy

def deviceGrants : List Operation :=
  [.deviceConnect, .deviceAudio, .deviceControl, .deviceButton, .realtimeOffer]

def integrationGrants : List Operation :=
  [.devicesList, .announce, .control, .playback, .firmwareInitiate, .firmwareDeliveryMint,
    .pairInitiate, .pairApprove, .agentConnect, .voiceResponse]

def ownerGrants : List Operation :=
  [.devicesList, .deviceConfig, .speechConfig, .announce, .control, .playback,
    .firmwareInitiate, .firmwareRead, .firmwareDeliveryMint, .firmwarePublish, .agentList,
    .agentConfig, .credentialCreate, .credentialDisclose, .credentialRotate,
    .credentialRevoke, .serverManage, .ownerAdmin, .webhookConfig, .pairInitiate,
    .pairApprove]

def allowed (principal : Option Principal) (operation : Operation) (resource : Option String)
    (physicalVerified : Bool) : Bool :=
  match principal with
  | none => false
  | some p =>
    match p.role with
    | .device =>
      operation = .firmwareRead ||
        (operation ∈ deviceGrants && resource.any fun r => r != "" && r == p.subject)
    | role =>
      let grants := if role = .owner then ownerGrants else integrationGrants
      operation ∈ grants &&
        (!(operation ∈ [Operation.pairInitiate, .pairApprove]) || physicalVerified)

end Policy

end Vauxr
