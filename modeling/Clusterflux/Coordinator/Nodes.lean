import Clusterflux.Coordinator.Interchange

/-!
# Nodes

Enrollment and revocation of node identities, authentication of the requests of
nodes, and what nodes report about themselves.
-/

namespace Clusterflux

open StatefulProgram Handler

def nodeSignatureWindowSeconds : ℕ := 30

def maxNodeReplayNoncesPerAuthority : ℕ := 4096

def maxEnrollmentGrantsPerProject : ℕ := 64

def maxNodeReportedObjectsPerKind : ℕ := 1024

/-! ## Authentication -/

def replayedNonce : Failure := unauthorized "node signed request nonce has already been used"

def outsideSignatureWindow : Failure :=
  unauthorized "node signed request is expired or outside the allowed clock skew"

/-- Recording the outcome of a replay check keeps the pruned registry also when
the check fails. -/
def admitNonce (check : ReplayRegistry → Except ReplayAdmissionError Unit × ReplayRegistry)
    (failure : Failure) : Handler Unit := do
  let service ← Handler.service
  modifyReplay fun _ => (check service.replayRegistry).2
  ensure (check service.replayRegistry).1.isOk failure

def nonceIsValid (nonce : String) : Bool := !isBlank nonce && nonce.utf8ByteSize ≤ 256

section Authentication

variable [Primitives]

def authenticateNodeRequest (scope : NodeScopeKey) (nodeSignature : Option NodeSignedRequest)
    (requestKind : String) (payloadDigest : Digest) : Handler Unit := do
  let service ← Handler.service
  let identity ← orFail (service.coordinator.nodeIdentity scope) unknownNode
  let signature ← orFail nodeSignature
    (unauthorized "node request requires a signed proof of enrolled private-key possession")
  ensure (nonceIsValid signature.nonce)
    (unauthorized "node signed request nonce is missing or invalid")
  let now ← livenessNowEpochSeconds
  ensure (absDiff signature.issuedAtEpochSeconds now ≤ nodeSignatureWindowSeconds)
    outsideSignatureWindow
  admitNonce (·.prepareNode scope signature.nonce now nodeSignatureWindowSeconds) replayedNonce
  liftExcept (verifyNodeRequestSignature identity.publicKey scope.node requestKind
    payloadDigest signature) unauthorized
  admitNonce (·.commitNode scope signature.nonce now maxNodeReplayNoncesPerAuthority)
    (unauthorized ("node signed request replay window is full; retry after the bounded " ++
      "signature window advances"))
  let seenAt ← livenessNowEpochSeconds
  modifyNodes (·.markSeen scope seenAt)
  modifyCoordinator (·.markNodeIdentitySeen scope seenAt)

end Authentication

/-! ## Identities -/

/-- A node that is not enrolled yet must fit the limit of its tenant. -/
def ensureNodeAdmission (scope : NodeScopeKey) : Handler Unit := do
  let service ← Handler.service
  let current := service.coordinator.nodeIdentityCountForTenant scope.tenant
  let maximum := (service.quota.effectiveAdmissionLimits
    service.durable.tenantQuotaOverrides[scope.tenant]?).maxNodes
  ensure ((service.coordinator.nodeIdentity scope).isSome ∨ current < maximum)
    (.error (.nodeIdentityQuota current maximum))

def ensureTenantActive (tenant : TenantId) : Handler Unit := do
  let service ← Handler.service
  liftExcept (service.coordinator.ensureTenantActive tenant) coordinatorFailure

def handleAttachNode (fields : NodeFields) (publicKey : String) :
    Handler CoordinatorResponse := do
  let scope ← newNodeScope fields
  ensureTenantActive scope.tenant
  modifyCoordinator (·.upsertProject scope.tenant scope.project "local")
  ensureNodeAdmission scope
  modifyCoordinator (·.enrollNode scope publicKey "node:attach")
  persistDurableState
  return .nodeAttached scope

def handleCreateNodeEnrollmentGrant (tenant project actorUser : String) (ttlSeconds : ℕ) :
    Handler CoordinatorResponse := do
  let tenant ← newId .tenant tenant
  let project ← newId .project project
  let _ ← newId .user actorUser
  ensureTenantActive tenant
  modifyCoordinator (·.upsertProject tenant project "local")
  let now ← currentEpochSeconds
  modifyNodes (·.pruneEnrollmentGrants now)
  let service ← Handler.service
  ensure (service.nodeRegistry.enrollmentGrantCount tenant project <
      maxEnrollmentGrantsPerProject)
    (protocolError ("node enrollment grant limit reached for this project; consume a grant " ++
      "or wait for one to expire"))
  let grant ← generateOpaqueToken "node_grant"
  let service ← Handler.service
  let ttlSeconds ← boundedTtl ttlSeconds service.admission.maxNodeEnrollmentTtlSeconds
  let expiresAt := saturatingAdd now ttlSeconds
  modifyNodes (·.insertEnrollmentGrant (tenant, project, grant)
    { tenant := tenant
      project := project
      grantId := grant
      scope := "node:attach"
      expiresAtEpochSeconds := expiresAt
      consumed := false })
  persistDurableState
  return .nodeEnrollmentGrantCreated tenant project grant expiresAt

def handleExchangeNodeEnrollmentGrant [Primitives] (fields : NodeFields)
    (publicKey enrollmentGrant : String) : Handler CoordinatorResponse := do
  let scope ← newNodeScope fields
  let now ← currentEpochSeconds
  modifyNodes (·.pruneEnrollmentGrants now)
  ensureTenantActive scope.tenant
  ensureNodeAdmission scope
  let service ← Handler.service
  let grantKey : EnrollmentGrantKey := (scope.tenant, scope.project, enrollmentGrant)
  let grant ← orFail service.nodeRegistry.enrollmentGrants[grantKey]?
    (coordinatorFailure (.enrollment .expired))
  let (_, coordinator) ← liftExcept (service.coordinator.exchangeNodeEnrollmentGrant grant
    scope.node publicKey "node:attach" now) coordinatorFailure
  modifyCoordinator fun _ => coordinator
  modifyNodes fun registry =>
    { registry with enrollmentGrants := registry.enrollmentGrants.erase grantKey }
  persistDurableState
  return .nodeEnrollmentExchanged scope

/-- The node that is revoked and the user who does it. -/
def newRevocation (fields : NodeFields) (actorUser : String) :
    Handler (NodeScopeKey × UserId) := do
  let tenant ← newId .tenant fields.tenant
  let project ← newId .project fields.project
  let actor ← newId .user actorUser
  let node ← newId .node fields.node
  return (⟨tenant, project, node⟩, actor)

/-- A failing clock stops the revocation half way: the identity and the
descriptor are gone then, the rest stays. -/
def handleRevokeNodeCredential (fields : NodeFields) (actorUser : String) :
    Handler CoordinatorResponse := do
  let (scope, actor) ← newRevocation fields actorUser
  let service ← Handler.service
  let coordinator ← liftExcept (service.coordinator.revokeNodeCredential
    ⟨scope.tenant, scope.project, .user actor⟩ scope.node) coordinatorFailure
  modifyCoordinator fun _ => coordinator
  modifyNodes (·.removeNode scope)
  let now ← currentEpochSeconds
  modifyInterchange (·.failNode scope now)
  modifyReplay (·.clearNode scope)
  modifyArtifacts (·.garbageCollectNode scope)
  modifyTasks (·.revokeNode scope)
  persistDurableState
  return .nodeCredentialRevoked scope actor

/-! ## Reports -/

/-- The first kind of object of which too many are reported. -/
def excessiveReport (request : NodeRequest.ReportNodeCapabilities) : Option String :=
  ([("cached environments", request.cachedEnvironmentDigests.length),
    ("dependency caches", request.dependencyCacheDigests.length),
    ("source snapshots", request.sourceSnapshots.length),
    ("artifact locations", request.artifactLocations.length)].find? fun (_, count) =>
      count > maxNodeReportedObjectsPerKind).map fun (kind, count) =>
        "node capability report contains " ++ toString count ++ " " ++ kind ++ "; limit is " ++
          toString maxNodeReportedObjectsPerKind

def validArtifactLocation (artifact : String) : Bool :=
  !isBlank artifact && artifact.utf8ByteSize ≤ 256 &&
    artifact.toList.all fun char => char ≠ '/' && char ≠ '\\' && char ≠ '\x00'

def capabilityReportFailure : CapabilityReportError → Failure
  | .invalidArchitecture arch =>
    .error (.capabilityReport ("node architecture `" ++ arch ++ "` is invalid"))
  | .invalidOsLabel label =>
    .error (.capabilityReport ("node OS label `" ++ label ++ "` is invalid"))
  | .invalidSourceProvider provider =>
    .error (.capabilityReport ("source provider id `" ++ provider ++ "` is invalid"))
  | .invalidSystemBundle problem =>
    .error (.capabilityReport ("system bundle capability is invalid: " ++ problem))

def handleReportNodeCapabilities (request : NodeRequest.ReportNodeCapabilities) :
    Handler CoordinatorResponse := do
  let scope ← newNodeScope request.toNodeFields
  let service ← Handler.service
  let _ ← orFail (service.coordinator.nodeIdentity scope) unknownNode
  liftExcept request.capabilities.validatePublicReport capabilityReportFailure
  ensure ((excessiveReport request).isNone)
    (protocolError ((excessiveReport request).getD ""))
  ensure ((request.cachedEnvironmentDigests ++ request.dependencyCacheDigests ++
      request.sourceSnapshots).all (·.isValidSha256))
    (protocolError "node capability report contains an invalid digest")
  ensure (request.artifactLocations.all validArtifactLocation)
    (protocolError "node capability report contains an invalid artifact id")
  let locations ← request.artifactLocations.mapM (newId .artifact)
  let locations := if request.online then locations.toFinset else ∅
  modifyArtifacts (·.reconcileNodeRetention scope locations)
  let live ← nodeIsLive scope
  let now ← currentEpochSeconds
  let service ← Handler.service
  modifyNodes (·.recordDescriptor scope
    { id := scope.node
      tenant := scope.tenant
      project := scope.project
      capabilities := request.capabilities
      cachedEnvironments := request.cachedEnvironmentDigests.toFinset
      dependencyCaches := request.dependencyCacheDigests.toFinset
      sourceSnapshots := request.sourceSnapshots.toFinset
      artifactLocations := locations
      artifactConnectivity := service.artifactConnectivityFacts scope now
      online := request.online && live })
  let service ← Handler.service
  persistDurableState
  return .nodeCapabilitiesRecorded scope.node
    (service.nodeRegistry.descriptorCountForProject scope.tenant scope.project)

/-! ## Drains -/

variable (service : CoordinatorService)

/-- Explicit retention of artifacts on a draining node ends with the soft
deadline. -/
def CoordinatorService.applySoftDrainPolicy
    (scope : NodeScopeKey) : CoordinatorService :=
  let onNode (key : ArtifactScopeKey) : Bool :=
    service.artifactRegistry.artifacts.values.any fun metadata =>
      metadata.tenant = scope.tenant ∧ metadata.project = scope.project ∧
        scope.node ∈ metadata.retainingNodes ∧
        key = ⟨scope.tenant, scope.project, metadata.id⟩
  let explicit : ArtifactHoldReason → Bool
    | .explicitRetention _ => true
    | _ => false
  { service with artifactRegistry := service.artifactRegistry.dropHolds onNode explicit }

/-- The transfers of a node are cancelled at its hard deadline, after the
processes that use it were aborted. -/
def CoordinatorService.cancelTransfersForHardDrain
    (scope : NodeScopeKey) (now : ℕ) : CoordinatorService :=
  let (released, registry) := service.interchangeRegistry.cancelNodeForHardDrain scope now
  { service with
    interchangeRegistry := registry
    artifactRegistry := service.artifactRegistry.releaseTransferHolds released
    taskRegistry := service.taskRegistry.hardDrainNode scope }

/-- A released node retains nothing and is not advertised. -/
def CoordinatorService.releaseNode (scope : NodeScopeKey) : CoordinatorService :=
  { service with
    artifactRegistry := service.artifactRegistry.garbageCollectNode scope
    nodeRegistry := service.nodeRegistry.markReleased scope }

end Clusterflux
