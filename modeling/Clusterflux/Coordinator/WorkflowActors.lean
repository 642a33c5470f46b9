import Clusterflux.Coordinator.Nodes

/-!
# Workflow actors and administrators

Who acts in a workflow request: a signed-in user, or an agent that signs the
request with its registered key.  The requests of the administrator carry a
proof instead of a signature.  Both are admitted through replay windows that are
dated by the issue time of the request.
-/

namespace Clusterflux

open StatefulProgram Checks Handler

def maxReplayNoncesPerAuthority : ℕ := 1024

def agentSignatureWindowSeconds : ℕ := 300

def adminRequestMaxClockSkewSeconds : ℕ := 300

inductive WorkflowActorKind where
  | user
  | agent
  | task

structure WorkflowActor where
  kind : WorkflowActorKind
  user : Option UserId
  agent : Option AgentId
  credentialKind : CredentialKind
  publicKeyFingerprint : Option Digest
  authenticatedWithoutBrowser : Bool
  scopes : List String

/-- What a workflow request says about who sends it. -/
structure WorkflowActorFields where
  actorUser : Option String
  actorAgent : Option String
  agentPublicKeyFingerprint : Option Digest
  agentSignature : Option AgentSignedRequest
  requestPayloadDigest : Option Digest

section Agents

variable [Primitives]

def Coordinator.authorizeAgentProjectRun (coordinator : Coordinator) (scope : AgentWorkflowScope)
    (publicKeyFingerprint : Option Digest) (payloadDigest : Digest)
    (signature : AgentSignedRequest) (nowEpochSeconds : ℕ) :
    Except CoordinatorError AgentPublicKeyRecord :=
  match coordinator.durable.agentPublicKeys[(scope.tenant, scope.project, scope.agent)]? with
  | none =>
    .error (.unauthorized "agent public key is not registered for this tenant/project")
  | some record => do
      refuseIf record.revoked (.unauthorized "agent public key has been revoked")
      refuseIf (publicKeyFingerprint.any (· ≠ record.publicKeyFingerprint))
        (.unauthorized "agent public key fingerprint does not match the registered key")
      refuseIf (absDiff signature.issuedAtEpochSeconds nowEpochSeconds > 300)
        (.unauthorized "agent signed request is expired or outside the allowed clock skew")
      refuseIf ("project:run" ∉ record.scopes)
        (.unauthorized "agent public key is not scoped for project runs")
      (verifyAgentWorkflowSignature record.publicKey scope payloadDigest signature).mapError
        .unauthorized
      return record

def replayedAgentNonce : Failure :=
  unauthorized "agent signed request nonce has already been used"

/-- The agent of a signed workflow request. -/
def agentWorkflowActor (tenant : TenantId) (project : ProjectId) (agent : String)
    (fields : WorkflowActorFields) (requestKind : String) (process : ProcessId)
    (task : Option TaskInstanceId) : Handler WorkflowActor := do
  let agent ← newId .agent agent
  let signature ← orFail fields.agentSignature (unauthorized
    "agent workflow dispatch requires a signed request proving private-key possession")
  let requestPayloadDigest ← orFail fields.requestPayloadDigest (unauthorized
    "agent workflow dispatch requires a canonical signed request payload")
  ensure (nonceIsValid signature.nonce)
    (unauthorized "agent signed request nonce is missing or invalid")
  let now ← livenessNowEpochSeconds
  admitNonce
    (·.prepareAgent tenant project agent signature.nonce now agentSignatureWindowSeconds)
    replayedAgentNonce
  let canonicalScope ← liftExcept
    (AgentWorkflowRequestScope.new tenant project requestKind process task) unauthorized
  let service ← Handler.service
  let record ← liftExcept (service.coordinator.authorizeAgentProjectRun
    (canonicalScope.forAgent agent) fields.agentPublicKeyFingerprint requestPayloadDigest
    signature now) coordinatorFailure
  admitNonce (·.commitAgent tenant project agent signature.nonce signature.issuedAtEpochSeconds
      maxReplayNoncesPerAuthority)
    (unauthorized ("agent signed request replay window is full; retry after the bounded " ++
      "signature window advances"))
  return { kind := .agent
           user := some record.user
           agent := some agent
           credentialKind := .publicKey
           publicKeyFingerprint := some record.publicKeyFingerprint
           authenticatedWithoutBrowser := true
           scopes := record.scopes }

def workflowActor (tenant : TenantId) (project : ProjectId) (fields : WorkflowActorFields)
    (requestKind : String) (process : ProcessId) (task : Option TaskInstanceId) :
    Handler WorkflowActor :=
  match fields.actorAgent with
  | some agent => agentWorkflowActor tenant project agent fields requestKind process task
  | none => do
      let actor ← newId .user (fields.actorUser.getD "user")
      return { kind := .user
               user := some actor
               agent := none
               credentialKind := .browserSession
               publicKeyFingerprint := none
               authenticatedWithoutBrowser := false
               scopes := ["project:read", "project:run"] }

/-! ## Administrators -/

/-- The parts of an administrator's request that its proof covers. -/
structure AdminRequest where
  operation : String
  tenant : String
  actorUser : String
  targetTenant : String
  adminProof : Digest
  adminNonce : String
  issuedAtEpochSeconds : ℕ

def AdminRequest.expectedProof (request : AdminRequest) (adminTokenDigest : Digest) : Digest :=
  adminRequestProofFromTokenDigest adminTokenDigest request.operation request.tenant
    request.actorUser request.targetTenant request.adminNonce request.issuedAtEpochSeconds

def adminAdmissionFailure : Except ReplayAdmissionError Unit → Failure
  | .error .capacity =>
    unauthorized ("admin request replay window is full; retry after the bounded signature " ++
      "window advances")
  | _ => unauthorized "admin request nonce was already used"

def verifyAdminRequest (request : AdminRequest) : Handler Unit := do
  let service ← Handler.service
  let expected ← orFail service.adminTokenDigest
    (unauthorized "self-hosted admin credential is not configured")
  ensure (nonceIsValid request.adminNonce)
    (unauthorized "admin request nonce is missing or invalid")
  let now ← livenessNowEpochSeconds
  ensure (absDiff now request.issuedAtEpochSeconds ≤ adminRequestMaxClockSkewSeconds)
    (unauthorized "admin request timestamp is outside the allowed 300-second window")
  ensure (request.adminProof = request.expectedProof expected)
    (unauthorized "admin request proof is invalid")
  let service ← Handler.service
  let admission := service.replayRegistry.admitAdmin request.adminNonce
    request.issuedAtEpochSeconds now adminRequestMaxClockSkewSeconds maxReplayNoncesPerAuthority
  modifyReplay fun _ => admission.2
  ensure admission.1.isOk (adminAdmissionFailure admission.1)

end Agents

end Clusterflux
