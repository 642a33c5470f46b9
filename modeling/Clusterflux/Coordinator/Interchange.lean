import Clusterflux.Coordinator.Service

/-!
# Artifact interchange

The requests by which nodes advertise their endpoints, ask for artifacts of
other nodes, learn about transfers they take part in and report progress.  Every
request first ends the transfers whose lease has lapsed.
-/

namespace Clusterflux

open StatefulProgram Handler

/-- The failure that names a transfer error. -/
def transferFailure (code : ArtifactTransferErrorCode) : Failure := protocolError code.asStr

def temporaryCapacity (scope : String) : Failure :=
  protocolError (ArtifactTransferErrorCode.asStr .capacityUnavailable ++ ": " ++ scope ++
    " is temporarily full; retry with backoff")

def transferReportFailure : TransferReportError → Failure
  | .protocol message => protocolError message
  | .unauthorized message => unauthorized message

/-- Finished transfers give up their holds. -/
def ArtifactRegistry.releaseTransferHolds (registry : ArtifactRegistry)
    (released : List ReleasedTransferHold) : ArtifactRegistry :=
  released.foldl (fun registry (key, reason) => registry.removeHold key reason) registry

/-! ## Common steps -/

def authorizeInterchangeNode (scope : NodeScopeKey) : Handler Unit := do
  let service ← Handler.service
  ensure (service.coordinator.nodeIdentity scope).isSome unknownNode

def activeAdvertisement (scope : NodeScopeKey) : Handler IrohEndpointAdvertisement := do
  let now ← currentEpochSeconds
  let service ← Handler.service
  orFail ((service.nodeRegistry.advertisement scope).filter fun advertisement =>
    advertisement.expiresAt > now) (transferFailure .endpointAdvertisementMissing)

/-- What expiry does to the service at a given time. -/
def CoordinatorService.expireInterchange (service : CoordinatorService) (now : ℕ) :
    CoordinatorService :=
  let configuration := service.artifactInterchangeConfiguration
  let (released, registry) := service.interchangeRegistry.expire now
    configuration.noProgressTimeoutSeconds configuration.absoluteTransferMaxSeconds
    terminalTransferRetentionSeconds
  { service with
    nodeRegistry := service.nodeRegistry.expireAdvertisements now service.nodeStaleAfterSeconds
    interchangeRegistry := registry
    artifactRegistry := service.artifactRegistry.releaseTransferHolds released }

def expireInterchangeState : Handler Unit := do
  let now ← currentEpochSeconds
  modifyService (·.expireInterchange now)

def CoordinatorService.cancelArtifactInterchanges (service : CoordinatorService)
    (key : ProcessControlKey) (now : ℕ) : CoordinatorService :=
  let (released, registry) := service.interchangeRegistry.cancelProcess key.tenant key.project
    key.process now
  { service with
    interchangeRegistry := registry
    artifactRegistry := service.artifactRegistry.releaseTransferHolds released }

def CoordinatorService.artifactConnectivityFacts (service : CoordinatorService)
    (scope : NodeScopeKey) (now : ℕ) : ArtifactConnectivityFacts :=
  let recent := ((service.interchangeRegistry.transfers.values.filter
    (·.concerns scope)).reverse).argmax (·.record.updatedAt)
  { endpointAdvertised := service.nodeRegistry.hasActiveAdvertisement scope now
    recentPath := (recent.map (·.record.pathKind)).getD .unknown
    recentDirectFailure := recent.any (·.record.failureCode = some .directPathTimeout)
    relayPolicy := service.artifactInterchangeConfiguration.artifactRelayPolicy }

/-! ## Policy and endpoints -/

def configureArtifactInterchange (configuration : CoordinatorArtifactInterchangeConfiguration) :
    Handler Unit := do
  liftExcept configuration.validate protocolError
  let service ← Handler.service
  ensure (service.artifactInterchangeConfiguration.generation < configuration.generation)
    (protocolError "artifact interchange policy generation must increase")
  modifyService fun service => { service with
    artifactInterchangeConfiguration := configuration
    nodeRegistry := service.nodeRegistry.clearAdvertisements }

/-- Every advertised relay is one of the configured relays. -/
def advertisedRelaysAllowed (relay : IrohRelayConfiguration)
    (advertisement : IrohEndpointAdvertisement) : Bool :=
  let allowed : List String := match relay with
    | .disabled => []
    | .custom relays => relays.map ClusterfluxRelayConfig.url
  advertisement.relayUrls.all fun url => allowed.any fun configured =>
    relayUrlsMatch configured url

def endpointAdvertisementFailure : EndpointAdvertisementError → Failure
  | .boundToAnotherScope =>
    unauthorized "Iroh EndpointId is already bound to another active node scope"
  | .identityChanged => unauthorized "Iroh EndpointId changed without a node identity rotation"
  | .staleGeneration => protocolError "Iroh endpoint advertisement generation is stale"

def handleReportIrohEndpointAdvertisement
    (request : NodeRequest.ReportIrohEndpointAdvertisement) : Handler CoordinatorResponse := do
  let advertisement := request.advertisement
  let scope ← parseNodeScope request.toNodeFields
  authorizeInterchangeNode scope
  expireInterchangeState
  liftExcept advertisement.validateBounds protocolError
  ensure (advertisement.tenant = scope.tenant ∧ advertisement.project = scope.project ∧
      advertisement.node = scope.node)
    (unauthorized "Iroh endpoint advertisement is outside the signed node scope")
  let service ← Handler.service
  let configuration := service.artifactInterchangeConfiguration
  ensure (advertisement.relayConfigurationGeneration = configuration.generation)
    (protocolError "Iroh endpoint advertisement uses a stale relay policy generation")
  let now ← currentEpochSeconds
  let maximumExpiry := saturatingAdd now configuration.endpointAdvertisementTtlSeconds
  ensure (now < advertisement.expiresAt ∧ advertisement.expiresAt ≤
      saturatingAdd maximumExpiry endpointAdvertisementClockSkewSeconds)
    (protocolError "Iroh endpoint advertisement expiry is outside the coordinator policy")
  ensure (advertisedRelaysAllowed configuration.relay advertisement)
    (unauthorized "Iroh endpoint advertised a relay outside coordinator policy")
  let registry ← liftExcept (service.nodeRegistry.registerAdvertisement scope advertisement)
    endpointAdvertisementFailure
  modifyNodes fun _ => registry
  return .irohEndpointAdvertisementAccepted advertisement.endpointId advertisement.generation
    advertisement.expiresAt

/-! ## Requests -/

/-- The first retaining node in order that is live and advertised. -/
def findSource (destination : NodeScopeKey) : List NodeId → Handler (Option NodeId)
  | [] => return none
  | source :: sources => do
      let scope : NodeScopeKey := ⟨destination.tenant, destination.project, source⟩
      let live ← nodeIsLive scope
      if live then
        let now ← livenessNowEpochSeconds
        let service ← Handler.service
        if service.nodeRegistry.hasActiveAdvertisement scope now then return some source
        else findSource destination sources
      else findSource destination sources

/-- A request for bytes of an artifact by the node that wants them. -/
structure TransferRequest where
  destination : NodeScopeKey
  process : ProcessId
  artifact : ArtifactId
  offset : ℕ

def TransferRequest.key (request : TransferRequest) : ArtifactScopeKey :=
  ⟨request.destination.tenant, request.destination.project, request.artifact⟩

namespace InterchangeRegistry

variable (registry : InterchangeRegistry) (request : TransferRequest)

/-- Earlier transfers for the same request. -/
def previousAttempts : List InterchangeTransfer :=
  registry.transfers.values.filter fun transfer =>
    transfer.record.tenant = request.destination.tenant ∧
      transfer.record.project = request.destination.project ∧
      transfer.record.process = request.process ∧
      transfer.record.artifact = request.artifact ∧
      transfer.record.destinationNode = request.destination.node

/-- Sources that are not asked again. -/
def attemptedSources : List NodeId :=
  ((registry.previousAttempts request).filter fun transfer =>
    transfer.record.state.terminal && transfer.record.failureCode.any fun code =>
      code.retryClass = .tryAnotherSource || code.retryClass = .permanentSourceInvalidation).map
    (·.record.sourceNode)

/-- The counter has 32 bits. -/
def attemptCount : ℕ :=
  min (((registry.previousAttempts request).map (·.record.attemptCount)).foldl max 0 + 1)
    (2 ^ 32 - 1)

def active : List InterchangeTransfer :=
  registry.transfers.values.filter fun transfer => !transfer.record.state.terminal

/-- The unfinished transfers into the requesting node. -/
def receiving : List InterchangeTransfer :=
  registry.active.filter fun transfer =>
    transfer.record.tenant = request.destination.tenant ∧
      transfer.record.project = request.destination.project ∧
      transfer.record.destinationNode = request.destination.node

/-- The first limit a new transfer would exceed. -/
def admissionObstacle (configuration : CoordinatorArtifactInterchangeConfiguration)
    (requestedPartialBytes now : ℕ) : Option String :=
  let tenant := registry.active.filter fun transfer =>
    transfer.record.tenant = request.destination.tenant
  let project := tenant.filter fun transfer =>
    transfer.record.project = request.destination.project
  let process := project.filter fun transfer => transfer.record.process = request.process
  let receiving := registry.receiving request
  let partialBytes := receiving.foldl (fun total transfer =>
    saturatingAdd total (transfer.record.totalBytes - transfer.record.bytesCompleted)) 0
  let recentCreations := registry.transfers.values.countP fun transfer =>
    transfer.record.tenant = request.destination.tenant ∧
      transfer.record.destinationNode = request.destination.node ∧
      transfer.record.createdAt ≥ now - 60
  if tenant.length ≥ configuration.maxActiveTransfersPerTenant then
    some "tenant active-transfer capacity"
  else if project.length ≥ configuration.maxActiveTransfersPerProject then
    some "project active-transfer capacity"
  else if process.length ≥ configuration.maxActiveTransfersPerProcess then
    some "process active-transfer capacity"
  else if receiving.length ≥ configuration.maxReceiverLeasesPerNode then
    some "receiver node lease capacity"
  else if saturatingAdd partialBytes requestedPartialBytes >
      configuration.maxPartialBytesPerNodeProject then
    some "node/project partial-byte capacity"
  else if recentCreations ≥ configuration.maxTransferCreationsPerTenantNodeMinute then
    some "tenant/node transfer creation rate"
  else none

/-- The unfinished transfers out of a node. -/
def providing (source : NodeId) : List InterchangeTransfer :=
  registry.active.filter fun transfer =>
    transfer.record.tenant = request.destination.tenant ∧
      transfer.record.project = request.destination.project ∧
      transfer.record.sourceNode = source

end InterchangeRegistry

/-- Create a transfer, if there is room for it, and hold its artifact. -/
def CoordinatorService.createInterchange (service : CoordinatorService) (terms : TransferTerms) :
    Bool × CoordinatorService :=
  match service.interchangeRegistry.create terms.transferId terms.transfer
      maxInterchangeTransfers with
  | (none, registry) => (false, { service with interchangeRegistry := registry })
  | (some _, registry) => (true, { service with
      interchangeRegistry := registry
      artifactRegistry := service.artifactRegistry.addHold terms.transfer.key
        (.activeTransfer terms.transferId) terms.now })

def createTransfer (terms : TransferTerms) : Handler CoordinatorResponse := do
  let service ← Handler.service
  let (created, service) := service.createInterchange terms
  modifyService fun _ => service
  ensure created (transferFailure .capacityUnavailable)
  return .artifactTransferAuthorization (some terms.transfer.destinationAuthorization)
    (some terms.record)

/-- Select a source and agree on the terms of a new transfer. -/
def negotiateTransfer (request : TransferRequest) (metadata : ArtifactMetadata)
    (destinationAdvertisement : IrohEndpointAdvertisement) (now : ℕ) :
    Handler TransferTerms := do
  let service ← Handler.service
  let registry := service.interchangeRegistry
  let configuration := service.artifactInterchangeConfiguration
  let obstacle := registry.admissionObstacle request configuration
    (metadata.size - request.offset) now
  ensure obstacle.isNone (temporaryCapacity (obstacle.getD ""))
  let source ← findSource request.destination
    ((orderedList metadata.retainingNodes).filter fun source =>
      source ≠ request.destination.node && !(registry.attemptedSources request).contains source)
  let source ← orFail source (transferFailure .endpointAdvertisementMissing)
  ensure ((registry.providing request source).length < configuration.maxProviderLeasesPerNode)
    (temporaryCapacity "provider node lease capacity")
  let sourceAdvertisement ← activeAdvertisement
    ⟨request.destination.tenant, request.destination.project, source⟩
  let transferId ← generateOpaqueToken "artifact_interchange"
  let nonce ← generateOpaqueToken "artifact_interchange_nonce"
  let transferSecret ← generateTransferSecret
  return { configuration := configuration
           destination := request.destination
           process := request.process
           artifact := request.artifact
           digest := metadata.digest
           size := metadata.size
           offset := request.offset
           sourceNode := source
           sourceAdvertisement := sourceAdvertisement
           destinationAdvertisement := destinationAdvertisement
           transferId := transferId
           nonce := nonce
           transferSecret := transferSecret
           attemptCount := registry.attemptCount request
           now := now }

/-- Renew the transfer that already serves the request, or create one. -/
def requestTransfer (request : TransferRequest) (metadata : ArtifactMetadata) (now : ℕ) :
    Handler CoordinatorResponse := do
  let destinationAdvertisement ← activeAdvertisement request.destination
  let service ← Handler.service
  match service.interchangeRegistry.renew request.destination request.process request.artifact
      service.artifactInterchangeConfiguration.lifetimes now with
  | (some (authorization, record), registry) => do
      modifyInterchange fun _ => registry
      return .artifactTransferAuthorization (some authorization) (some record)
  | (none, _) => do
      let terms ← negotiateTransfer request metadata destinationAdvertisement now
      createTransfer terms

/-- The answer to a node that has the artifact already. -/
def localTransfer (request : TransferRequest) (size : ℕ) (transferId : String) (now : ℕ) :
    ArtifactTransferRecord where
  transferId := transferId
  tenant := request.destination.tenant
  project := request.destination.project
  process := request.process
  artifact := request.artifact
  sourceNode := request.destination.node
  destinationNode := request.destination.node
  bytesCompleted := size
  pathKind := .local
  state := .completed
  createdAt := now
  updatedAt := now
  expiresAt := now
  streamTicketExpiresAt := now
  lastProgressAt := now
  totalBytes := size
  phase := .complete
  failureCode := none
  attemptCount := 0

/-- The checks on a request, which end with the metadata of the artifact. -/
def admitTransferRequest (fields : NodeRequest.RequestArtifactInterchange) :
    Handler (TransferRequest × ArtifactMetadata) := do
  let destination ← parseNodeScope fields.toNodeFields
  authorizeInterchangeNode destination
  expireInterchangeState
  let live ← nodeIsLive destination
  ensure live (transferFailure .destinationNodeOffline)
  let process ← parseId .process fields.process
  let artifact ← parseId .artifact fields.artifact
  let request : TransferRequest := ⟨destination, process, artifact, fields.offset⟩
  let service ← Handler.service
  ensure (¬ service.processRegistry.isCancelled
      ⟨destination.tenant, destination.project, process⟩)
    (transferFailure .transferCancelled)
  let metadata ← orFail (service.artifactRegistry.metadata request.key)
    (transferFailure .noArtifactLocation)
  ensure (metadata.process = process)
    (unauthorized "artifact transfer process does not own the requested artifact")
  -- a late request does not bring back an artifact that nothing holds any more
  ensure (service.artifactRegistry.holds[request.key]?.getD ∅ ≠ ∅)
    (protocolError "artifact_released")
  ensure (fields.offset ≤ metadata.size) (transferFailure .rangeInvalid)
  return (request, metadata)

def handleRequestArtifactInterchange (fields : NodeRequest.RequestArtifactInterchange) :
    Handler CoordinatorResponse := do
  let (request, metadata) ← admitTransferRequest fields
  let now ← currentEpochSeconds
  if request.destination.node ∈ metadata.retainingNodes then
    let transferId ← generateOpaqueToken "artifact_local"
    return .artifactTransferAuthorization none
      (some (localTransfer request metadata.size transferId now))
  else requestTransfer request metadata now

/-! ## Assignments and progress -/

/-- The common start of the other requests. -/
def enterInterchange (fields : NodeFields) : Handler (NodeScopeKey × ℕ) := do
  let scope ← parseNodeScope fields
  authorizeInterchangeNode scope
  expireInterchangeState
  let now ← currentEpochSeconds
  return (scope, now)

def handlePollArtifactProviderAssignment (fields : NodeFields) : Handler CoordinatorResponse := do
  let (scope, now) ← enterInterchange fields
  let service ← Handler.service
  let ((retired, authorization), registry) :=
    service.interchangeRegistry.pollProviderAssignment scope now assignmentAckRecoverySeconds
  modifyInterchange fun _ => registry
  return .artifactProviderAssignment authorization retired

def handlePollArtifactReceiverAssignment (fields : NodeFields) : Handler CoordinatorResponse := do
  let (scope, now) ← enterInterchange fields
  let service ← Handler.service
  let (authorization, registry) :=
    service.interchangeRegistry.pollReceiverAssignment scope now assignmentAckRecoverySeconds
  modifyInterchange fun _ => registry
  return .artifactReceiverAssignment authorization

def acknowledgementFailure : InterchangeRegistry.AssignmentAcknowledgementError → Failure
  | .unknownTransfer => protocolError "unknown artifact transfer"
  | .outsideScope =>
    unauthorized "artifact assignment acknowledgement is outside the signed node scope"
  | .roleMismatch => unauthorized "artifact assignment role does not match the signed node"

def handleAcknowledgeArtifactAssignment (request : NodeRequest.AcknowledgeArtifactAssignment) :
    Handler CoordinatorResponse := do
  let (scope, now) ← enterInterchange request.toNodeFields
  let service ← Handler.service
  let (outcome, registry) := service.interchangeRegistry.acknowledgeAssignment scope
    request.transferId request.role now
  modifyInterchange fun _ => registry
  let state ← liftExcept outcome acknowledgementFailure
  return .artifactAssignmentAcknowledged request.transferId request.role state

def transferReport (request : NodeRequest.ReportArtifactInterchange) : TransferReport where
  state := request.state
  bytesCompleted := request.bytesCompleted
  pathKind := request.pathKind
  failureCode := request.failureCode
  verifiedDigest := request.verifiedDigest
  verifiedSize := request.verifiedSize

/-- Record a report; a transfer that ends with it gives up its hold. -/
def CoordinatorService.reportInterchange (service : CoordinatorService) (scope : NodeScopeKey)
    (transferId : String) (report : TransferReport) (now : ℕ) :
    Except TransferReportError InterchangeProgress × CoordinatorService :=
  let (outcome, registry, artifacts) := service.interchangeRegistry.reportProgress
    service.artifactRegistry scope transferId report
    service.artifactInterchangeConfiguration.lifetimes now
  let released := match outcome with
    | .ok progress => progress.terminalHold.toList
    | .error _ => []
  (outcome, { service with
    interchangeRegistry := registry
    artifactRegistry := artifacts.releaseTransferHolds released })

def handleReportArtifactInterchange (request : NodeRequest.ReportArtifactInterchange) :
    Handler CoordinatorResponse := do
  let (scope, now) ← enterInterchange request.toNodeFields
  let service ← Handler.service
  let (outcome, service) := service.reportInterchange scope request.transferId
    (transferReport request) now
  modifyService fun _ => service
  let progress ← liftExcept outcome transferReportFailure
  return .artifactTransferProgressAccepted progress.record progress.authorization

end Clusterflux
