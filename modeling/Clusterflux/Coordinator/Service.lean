import Clusterflux.Coordinator.DebugRegistry
import Clusterflux.Coordinator.InterchangeConfiguration
import Clusterflux.Coordinator.ProcessRegistry
import Clusterflux.Coordinator.Quota
import Clusterflux.Coordinator.RecentLogStore
import Clusterflux.Coordinator.ReplayRegistry
import Clusterflux.Coordinator.TaskRegistry
import Clusterflux.Foundation.Program

/-!
# The coordinator service

The state behind the request handlers and the monad they run in.  A handler
mutates the service and may return early with an error; the mutations made
before the error stay.  A panic is a failure of its own.
-/

namespace Clusterflux

open StatefulProgram

/-! ## Errors -/

inductive CoordinatorServiceError where
  | protocol (message : String)
  | coordinator (error : CoordinatorError)
  | scheduler (message : String)
  | resource (error : LimitError)
  | capabilityReport (message : String)
  | invalidArtifactPath (message : String)
  | invalidTaskLogTail (message : String)
  | terminalOperationConflict
  | staleNodeAssignmentAcknowledgement
  | projectQuota (current maximum : ℕ)
  | nodeIdentityQuota (current maximum : ℕ)
  | activeProcessQuota (current maximum : ℕ)
  | durable (message : String)

/-- How a handler ends early. -/
inductive Failure where
  | error (error : CoordinatorServiceError)
  | panicked (message : String)

def unauthorized (message : String) : Failure := .error (.coordinator (.unauthorized message))

def unknownNode : Failure := .error (.coordinator .unknownNode)

def protocolError (message : String) : Failure := .error (.protocol message)

/-- An error of the coordinator itself becomes a service error. -/
def coordinatorFailure (error : CoordinatorError) : Failure := .error (.coordinator error)

/-! ## Responses -/

inductive CoordinatorResponse where
  | nodeAttached (scope : NodeScopeKey)
  | nodeEnrollmentExchanged (scope : NodeScopeKey)
  | nodeEnrollmentGrantCreated (tenant : TenantId) (project : ProjectId) (grant : String)
      (expiresAtEpochSeconds : ℕ)
  | nodeCredentialRevoked (scope : NodeScopeKey) (actor : UserId)
  | projectCreated (project : ProjectRecord) (actor : UserId)
  | projectSelected (project : ProjectRecord) (actor : UserId)
  | projects (projects : List ProjectRecord) (actor : UserId)
  | agentPublicKey (record : AgentPublicKeyRecord) (actor : UserId)
  | nodeHeartbeat (node : NodeId) (epoch : ℕ)
  | nodeCapabilitiesRecorded (node : NodeId) (nodeDescriptors : ℕ)
  | nodeReconnected (node : NodeId) (process : ProcessId)
  | sourcePreparationCompleted (node : NodeId) (provider : SourceProviderKind)
      (sourceSnapshot : Digest)
  | artifactDataPlanePolicy (policy : ArtifactDataPlanePolicy)
  | irohEndpointAdvertisementAccepted (endpointId : String) (generation expiresAt : ℕ)
  | artifactTransferAuthorization (authorization : Option ArtifactTransferAuthorization)
      (transfer : Option ArtifactTransferRecord)
  | artifactProviderAssignment (authorization : Option ArtifactTransferAuthorization)
      (retiredTransferIds : List String)
  | artifactReceiverAssignment (authorization : Option ArtifactTransferAuthorization)
  | artifactAssignmentAcknowledged (transferId : String) (role : ArtifactAssignmentRole)
      (state : ArtifactAssignmentState)
  | artifactTransferProgressAccepted (transfer : ArtifactTransferRecord)
      (authorization : Option ArtifactTransferAuthorization)

/-! ## The main runtime -/

inductive MainState where
  | running
  | stopping
  | completed
  | failed
  deriving DecidableEq

structure CoordinatorMainControl where
  taskDefinition : TaskDefinitionId
  taskInstance : TaskInstanceId
  abort : Bool
  state : MainState
  stoppedProbeSymbol : Option String
  launchId : ℕ

/-- The coordinator mains of processes, and who waits for which task.  A waiter
is the number of the channel its answer goes to. -/
structure CoordinatorMainRuntime where
  controls : OrderedMap ProcessControlKey CoordinatorMainControl := ∅
  joinWaiters : OrderedMap TaskRestartKey (List ℕ) := ∅
  nextLaunchId : ℕ := 1
  maxActiveMains : ℕ := 1024
  maxOutputBytes : ℕ := 256 * 1024

namespace CoordinatorMainRuntime

variable (runtime : CoordinatorMainRuntime) (key : ProcessControlKey)

def ensureLaunchCapacity : Except String Unit :=
  if runtime.controls.contains key then
    .error ("virtual process " ++ key.process.value ++
      " already has a coordinator main instance")
  else if runtime.controls.size ≥ runtime.maxActiveMains then
    .error ("admission.coordinator_main_limit: global coordinator-main limit of " ++
      toString runtime.maxActiveMains ++ " reached")
  else .ok ()

def interruptProcess : CoordinatorMainRuntime :=
  { runtime with
    controls := runtime.controls.modify key fun control =>
      { control with abort := true, state := .stopping }
    joinWaiters := runtime.joinWaiters.filter fun task _ => task.toProcessControlKey ≠ key }

def remove : CoordinatorMainRuntime := { runtime with controls := runtime.controls.erase key }

end CoordinatorMainRuntime

/-! ## State -/

structure CoordinatorAdmission where
  workflowPlacementAllowed : Bool := true
  maxNodeEnrollmentTtlSeconds : ℕ := 15 * 60

structure CoordinatorService where
  coordinator : Coordinator := {}
  nodeRegistry : NodeRegistry := {}
  nodeStaleAfterSeconds : ℕ := 30
  debugFreezeTimeout : ℕ := 15
  debugEpochLeaseTimeout : ℕ := 30
  processRegistry : ProcessRegistry := {}
  taskRegistry : TaskRegistry := {}
  recentLogStore : RecentLogStore := {}
  debugRegistry : DebugRegistry := {}
  mainRuntime : CoordinatorMainRuntime := {}
  replayRegistry : ReplayRegistry := {}
  artifactRegistry : ArtifactRegistry := {}
  interchangeRegistry : InterchangeRegistry := {}
  artifactInterchangeConfiguration : CoordinatorArtifactInterchangeConfiguration := {}
  quota : CoordinatorQuota := {}
  admission : CoordinatorAdmission := {}
  /-- Whether a key for project secrets is configured. -/
  secretCipher : Bool := false
  /-- The digest of the administrator's token, if one is configured. -/
  adminTokenDigest : Option Digest := none

/-- What the debugger of a coordinator main shows when it is looked at. -/
structure MainDebugView where
  frozenEpoch : Option ℕ := none
  resumeRequested : Bool := false
  currentSourceLocation : Option SourceLocation := none
  handles : List (String × String) := []

/-- The world and what the coordinator sees of running mains. -/
structure Environment extends World where
  /-- Readings of the monotonic clock. -/
  instants : ℕ → ℕ
  /-- Fresh transfer secrets; the random source may fail with a text. -/
  transferSecrets : ℕ → Except String (List UInt8)
  mainDebug : ℕ → MainDebugView

structure Machine where
  service : CoordinatorService
  environment : Environment

abbrev Handler := EStateM Failure Machine

/-! ## Primitive steps -/

namespace Handler

def service : Handler CoordinatorService := do
  let machine ← get
  return machine.service

def modifyService (change : CoordinatorService → CoordinatorService) : Handler Unit :=
  modify fun machine => { machine with service := change machine.service }

def modifyCoordinator (change : Coordinator → Coordinator) : Handler Unit :=
  modifyService fun service => { service with coordinator := change service.coordinator }

def modifyDurable (change : DurableState → DurableState) : Handler Unit :=
  modifyCoordinator fun coordinator => { coordinator with durable := change coordinator.durable }

def modifyNodes (change : NodeRegistry → NodeRegistry) : Handler Unit :=
  modifyService fun service => { service with nodeRegistry := change service.nodeRegistry }

def modifyProcesses (change : ProcessRegistry → ProcessRegistry) : Handler Unit :=
  modifyService fun service =>
    { service with processRegistry := change service.processRegistry }

def modifyTasks (change : TaskRegistry → TaskRegistry) : Handler Unit :=
  modifyService fun service => { service with taskRegistry := change service.taskRegistry }

def modifyLogs (change : RecentLogStore → RecentLogStore) : Handler Unit :=
  modifyService fun service => { service with recentLogStore := change service.recentLogStore }

def modifyDebug (change : DebugRegistry → DebugRegistry) : Handler Unit :=
  modifyService fun service => { service with debugRegistry := change service.debugRegistry }

def modifyMain (change : CoordinatorMainRuntime → CoordinatorMainRuntime) : Handler Unit :=
  modifyService fun service => { service with mainRuntime := change service.mainRuntime }

def modifyReplay (change : ReplayRegistry → ReplayRegistry) : Handler Unit :=
  modifyService fun service => { service with replayRegistry := change service.replayRegistry }

def modifyArtifacts (change : ArtifactRegistry → ArtifactRegistry) : Handler Unit :=
  modifyService fun service =>
    { service with artifactRegistry := change service.artifactRegistry }

def modifyInterchange (change : InterchangeRegistry → InterchangeRegistry) : Handler Unit :=
  modifyService fun service =>
    { service with interchangeRegistry := change service.interchangeRegistry }

def modifyQuota (change : CoordinatorQuota → CoordinatorQuota) : Handler Unit :=
  modifyService fun service => { service with quota := change service.quota }

/-- Read a stream of the environment and advance it. -/
def observe {α : Type} (answer : Environment → α) (advance : Environment → Environment) :
    Handler α := do
  let machine ← get
  modify fun machine => { machine with environment := advance machine.environment }
  return answer machine.environment

def readClock : Handler (Option ℕ) :=
  observe (·.clock 0) fun environment => { environment with toWorld := environment.afterClock }

def currentEpochSeconds : Handler ℕ := do
  let reading ← readClock
  orFail reading
    (protocolError "system clock error: second time provided was later than self")

/-- A clock before the epoch counts as zero. -/
def livenessNowEpochSeconds : Handler ℕ := do
  let reading ← readClock
  return reading.getD 0

def instantNow : Handler ℕ :=
  observe (·.instants 0) fun environment =>
    { environment with instants := fun index => environment.instants (index + 1) }

def generateOpaqueToken (label : String) : Handler String := do
  let token ← observe (·.tokens 0) fun environment =>
    { environment with toWorld := environment.afterToken }
  let token ← orFail token (protocolError "operating system random source failed")
  return label ++ "_" ++ token

def persistDurableState : Handler Unit := do
  let accepted ← observe (·.storeAccepts 0) fun environment =>
    { environment with toWorld := environment.afterStore }
  ensure accepted (.error (.durable "durable store rejected the write"))

def generateTransferSecret : Handler (List UInt8) := do
  let secret ← observe (·.transferSecrets 0) fun environment =>
    { environment with
      transferSecrets := fun index => environment.transferSecrets (index + 1) }
  liftExcept secret fun error => protocolError ("generate artifact transfer secret: " ++ error)

/-- `requested.clamp(1, maximum)`, which panics for an empty range. -/
def boundedTtl (requested maximum : ℕ) : Handler ℕ := do
  ensure (1 ≤ maximum) (.panicked "assertion failed: min <= max")
  return max 1 (min requested maximum)

def mainDebugView : Handler MainDebugView :=
  observe (·.mainDebug 0) fun environment =>
    { environment with mainDebug := fun index => environment.mainDebug (index + 1) }

/-- `Id::new`: an invalid text panics. -/
def newId (kind : IdKind) (value : String) : Handler (Id kind) :=
  liftExcept (Id.tryNew kind value) fun reason => .panicked (kind.parseError reason)

/-- `Id::try_new` of a request field: an invalid text is an error. -/
def parseId (kind : IdKind) (value : String) : Handler (Id kind) :=
  liftExcept (Id.tryNew kind value) fun reason => protocolError (kind.parseError reason)

/-- The node scope of a request, where invalid texts panic. -/
def newNodeScope (fields : NodeFields) : Handler NodeScopeKey := do
  let tenant ← newId .tenant fields.tenant
  let project ← newId .project fields.project
  let node ← newId .node fields.node
  return ⟨tenant, project, node⟩

/-- The node scope of a request, where invalid texts are errors. -/
def parseNodeScope (fields : NodeFields) : Handler NodeScopeKey := do
  let tenant ← parseId .tenant fields.tenant
  let project ← parseId .project fields.project
  let node ← parseId .node fields.node
  return ⟨tenant, project, node⟩

def newProcessKey (tenant project process : String) : Handler ProcessControlKey := do
  let tenant ← newId .tenant tenant
  let project ← newId .project project
  let process ← newId .process process
  return ⟨tenant, project, process⟩

def nodeIsLive (scope : NodeScopeKey) : Handler Bool := do
  let now ← livenessNowEpochSeconds
  let service ← service
  return service.nodeRegistry.isLive scope now service.nodeStaleAfterSeconds

end Handler

namespace CoordinatorService

variable (service : CoordinatorService)

/-- A process that is being stopped only needs an enrolled node. -/
def authorizeNodeForProcessOrTermination (node : NodeId) (key : ProcessControlKey) :
    Except CoordinatorError Unit :=
  if service.processRegistry.isStopping key then
    if (service.coordinator.nodeIdentity ⟨key.tenant, key.project, node⟩).isSome then .ok ()
    else .error .unknownNode
  else service.coordinator.authorizeNodeForProcess node key

/-- The durable state. -/
abbrev durable : DurableState := service.coordinator.durable

end CoordinatorService

end Clusterflux
