import Clusterflux.Core.Primitives

/-!
# Signed requests

A node or agent signs a framed message: the request kind, the digest of the
request payload, a nonce, the issue time and, for task operations, the
assignment it acts for.  The version in the first part tells which optional
parts follow.
-/

namespace Clusterflux

open LengthFraming

/-- Exact assignment ownership carried by task-related signed node requests. -/
structure AssignmentAuthority where
  assignmentId : String
  attemptId : String
  offerEpoch : ℕ

/-- The proof that goes with the request of a node. -/
structure NodeSignedRequest where
  nonce : String
  issuedAtEpochSeconds : ℕ
  signature : String
  assignmentAuthority : Option AssignmentAuthority
  operationId : Option String

/-- The proof that goes with the request of an agent. -/
structure AgentSignedRequest where
  nonce : String
  issuedAtEpochSeconds : ℕ
  signature : String

/-- What an agent asks for, and where. -/
structure AgentWorkflowScope where
  tenant : TenantId
  project : ProjectId
  agent : AgentId
  requestKind : String
  process : ProcessId
  task : Option TaskInstanceId

/-- The scope of an agent request, without the agent. -/
structure AgentWorkflowRequestScope where
  tenant : TenantId
  project : ProjectId
  requestKind : String
  process : ProcessId
  task : Option TaskInstanceId

namespace AgentWorkflowRequestScope

def new (tenant : TenantId) (project : ProjectId) (requestKind : String) (process : ProcessId)
    (task : Option TaskInstanceId) : Except String AgentWorkflowRequestScope :=
  if requestKind = "start_process" ∧ task.isSome then
    .error "start_process agent scope must not contain a task instance"
  else if requestKind = "launch_task" ∧ task.isNone then
    .error "launch_task agent scope requires a task instance"
  else if requestKind = "start_process" ∨ requestKind = "launch_task" then
    .ok ⟨tenant, project, requestKind, process, task⟩
  else .error ("request kind `" ++ requestKind ++ "` is not an agent workflow operation")

def forAgent (scope : AgentWorkflowRequestScope) (agent : AgentId) : AgentWorkflowScope :=
  ⟨scope.tenant, scope.project, agent, scope.requestKind, scope.process, scope.task⟩

end AgentWorkflowRequestScope

/-! ## Signed messages -/

def AssignmentAuthority.parts (authority : AssignmentAuthority) : List String :=
  [authority.assignmentId, authority.attemptId, toString authority.offerEpoch]

/-- Messages with more parts have a version of their own. -/
def nodeRequestSignatureVersion (assignmentAuthority : Option AssignmentAuthority)
    (operationId : Option String) : String :=
  if operationId.isSome then "clusterflux-node-request-signature:v4"
  else if assignmentAuthority.isSome then "clusterflux-node-request-signature:v3"
  else "clusterflux-node-request-signature:v2"

/-- What a node signs, part by part. -/
def nodeRequestSignatureParts (node : NodeId) (requestKind : String)
    (payloadDigest : Digest) (nonce : String) (issuedAtEpochSeconds : ℕ)
    (assignmentAuthority : Option AssignmentAuthority)
    (operationId : Option String) : List String :=
  [nodeRequestSignatureVersion assignmentAuthority operationId, node.value,
    requestKind, payloadDigest.text, nonce, toString issuedAtEpochSeconds] ++
    (assignmentAuthority.map AssignmentAuthority.parts).getD [] ++ operationId.toList

def nodeRequestSignatureMessage (node : NodeId) (requestKind : String)
    (payloadDigest : Digest) (nonce : String) (issuedAtEpochSeconds : ℕ)
    (assignmentAuthority : Option AssignmentAuthority)
    (operationId : Option String) : Bytes :=
  frames ((nodeRequestSignatureParts node requestKind payloadDigest nonce
    issuedAtEpochSeconds assignmentAuthority operationId).map utf8)

/-- What an agent signs, part by part. -/
def agentWorkflowSignatureParts (scope : AgentWorkflowScope) (payloadDigest : Digest)
    (nonce : String) (issuedAtEpochSeconds : ℕ) : List String :=
  ["clusterflux-agent-workflow-signature:v2", scope.tenant.value, scope.project.value,
    scope.agent.value, scope.requestKind, scope.process.value,
    (scope.task.map Id.value).getD "", payloadDigest.text, nonce,
    toString issuedAtEpochSeconds]

def agentWorkflowSignatureMessage (scope : AgentWorkflowScope) (payloadDigest : Digest)
    (nonce : String) (issuedAtEpochSeconds : ℕ) : Bytes :=
  frames ((agentWorkflowSignatureParts scope payloadDigest nonce
    issuedAtEpochSeconds).map utf8)

/-! ## Verification -/

section Verification

variable [Primitives]

def decodeEd25519Key (value : String) (expectedLength : ℕ) (kind : String) : Except String Bytes :=
  match stripStart value "ed25519:" with
  | none => .error (kind ++ " must use ed25519:<base64> encoding")
  | some encoded =>
    match Primitives.base64Decode encoded with
    | .error _ => .error (kind ++ " is not valid base64")
    | .ok bytes =>
      if bytes.length ≠ expectedLength then
        .error (kind ++ " must be " ++ toString expectedLength ++ " bytes")
      else .ok bytes

/-- The checks shared by node and agent signatures: decode the key and the
signature, then verify the message. -/
def verifyEd25519Message (holder enrolled : String) (publicKey signature : String)
    (message : Bytes) : Except String Unit := do
  let key ← decodeEd25519Key publicKey 32 (holder ++ " public key")
  if !Primitives.isVerifyingKey key then
    .error (holder ++ " public key is not a valid Ed25519 verifying key")
  let signatureBytes ← decodeEd25519Key signature 64 (holder ++ " signature")
  if Primitives.verifiesEd25519 key message signatureBytes then
    .ok ()
  else
    .error (holder ++ " signature does not verify against the " ++ enrolled ++ " public key")

def verifyNodeRequestSignature (publicKey : String) (node : NodeId)
    (requestKind : String) (payloadDigest : Digest)
    (signedRequest : NodeSignedRequest) : Except String Unit :=
  verifyEd25519Message "node" "enrolled" publicKey signedRequest.signature
    (nodeRequestSignatureMessage node requestKind payloadDigest signedRequest.nonce
      signedRequest.issuedAtEpochSeconds signedRequest.assignmentAuthority
      signedRequest.operationId)

def verifyAgentWorkflowSignature (publicKey : String) (scope : AgentWorkflowScope)
    (payloadDigest : Digest) (signedRequest : AgentSignedRequest) :
    Except String Unit :=
  verifyEd25519Message "agent" "registered" publicKey signedRequest.signature
    (agentWorkflowSignatureMessage scope payloadDigest signedRequest.nonce
      signedRequest.issuedAtEpochSeconds)

/-- The proof that goes with the request of an administrator. -/
def adminRequestProofFromTokenDigest (adminTokenDigest : Digest)
    (operation tenant actorUser targetTenant nonce : String) (issuedAtEpochSeconds : ℕ) :
    Digest :=
  Digest.fromParts (["clusterflux-admin-request-proof:v1", adminTokenDigest.text, operation,
    tenant, actorUser, targetTenant, nonce, toString issuedAtEpochSeconds].map utf8)

end Verification

end Clusterflux
