import Clusterflux.Coordinator.Completion
import Clusterflux.Coordinator.TaskPlacement

/-!
# Launches of tasks

A launch is checked, charged, given an attempt and offered to a node, or queued
until a node can take it.  An offer that no node acknowledged in time is queued
again; nodes take queued launches when they poll.
-/

namespace Clusterflux

open StatefulProgram LengthFraming JsonText Handler

def maxRestartCheckpointsPerProcess : ℕ := 128

def maxRestartCheckpointsTotal : ℕ := 4096

def maxTaskAttemptHistories : ℕ := 1000000

def maxAttemptsPerTask : ℕ := 128

def nodeAssignmentOfferSeconds : ℕ := 30

def TaskSpec.processKey (spec : TaskSpec) : ProcessControlKey :=
  ⟨spec.tenant, spec.project, spec.process⟩

def TaskSpec.restartKey (spec : TaskSpec) : TaskRestartKey :=
  ⟨spec.processKey, spec.taskInstance⟩

/-! ## Attempts -/

/-- The snapshot of a new attempt; its number is given by the history. -/
def TaskSpec.attemptSnapshot (spec : TaskSpec) (attemptId : String)
    (argumentSummary : List String) (node : Option NodeId) (artifactPath : Option String)
    (queued : Bool) : TaskAttemptSnapshot where
  process := spec.process
  task := spec.taskInstance
  attemptId := attemptId
  attemptNumber := 0
  taskDefinition := spec.taskDefinition
  state := if queued then .queued else .running
  current := true
  node := node
  environmentId := spec.environmentId
  environmentDigest := spec.environmentDigest
  argumentSummary := argumentSummary
  commandState := some (if queued then "queued" else "running")
  waitingReason := none
  vfsCheckpoint := "vfs-epoch:" ++ toString spec.vfsEpoch
  probeSymbol := none
  failurePolicy := spec.failurePolicy
  artifactPath := artifactPath.bind fun path => (VfsPath.new path).toOption
  artifactDigest := none
  artifactSizeBytes := none
  statusCode := none
  error := none

def assignTaskAttempt (spec : TaskSpec) (node : NodeId) : Handler Unit :=
  modifyTasks (·.updateCurrentAttempt spec.restartKey fun attempt =>
    { attempt with
      node := some node
      state := .queued
      commandState := some "offered"
      waitingReason := none })

/-- The path a restart gives the next attempt of a task. -/
def TaskRegistry.restartArtifactPath (registry : TaskRegistry) (key : TaskRestartKey) : String :=
  "/vfs/artifacts/" ++ key.task.value ++ "-attempt-" ++
    toString (registry.attemptCount key + 1) ++ "-result.json"

/-! ## Restart checkpoints -/

/-- The metadata of an artifact that some node retains. -/
def ArtifactRegistry.retained (registry : ArtifactRegistry) (key : ArtifactScopeKey) :
    Option ArtifactMetadata :=
  (registry.metadata key).filter fun metadata => metadata.retainingNodes ≠ ∅

/-- The objects of the required artifacts that are retained, and whether one is missing. -/
def ArtifactRegistry.checkpointObjects (registry : ArtifactRegistry) (tenant : TenantId)
    (project : ProjectId) : List ArtifactId → Except String (List (ArtifactId × VfsObject) × Bool)
  | [] => .ok ([], false)
  | artifact :: rest =>
    match registry.retained ⟨tenant, project, artifact⟩ with
    | none => (registry.checkpointObjects tenant project rest).map fun (objects, _) =>
      (objects, true)
    | some metadata => do
        let path ← VfsPath.new ("/vfs/artifacts/" ++ artifact.value)
        let (objects, missing) ← registry.checkpointObjects tenant project rest
        let object : VfsObject := ⟨path, metadata.digest, metadata.size, metadata.producerTask,
          metadata.producerNode⟩
        return ((artifact, object) :: objects, missing)

section Checkpoints

variable [Primitives] [BundleInspection]

/-- The digest of a value's JSON. -/
def jsonDigest {α : Type} (codec : WireCodec α) (value : α) : Digest :=
  Digest.sha256 (utf8 (String.ofList (codec.encode value).text))

def TaskSpec.checkpointEnvironmentDigest (spec : TaskSpec) : Digest :=
  spec.environmentDigest.getD
    (match spec.environment with
      | none => Digest.sha256 (utf8 "clusterflux.environment.unconstrained.v1")
      | some environment => jsonDigest environmentRequirementsCodec environment)

variable (assignment : TaskAssignment)

/-- The export and the compatibility hash that the module declares for the task. -/
def TaskAssignment.taskDescriptor : Option (Option String × Option Digest) :=
  (Primitives.base64Decode assignment.wasmModuleBase64).toOption.bind fun wasm =>
    BundleInspection.taskDescriptor wasm assignment.taskSpec.taskDefinition.value

def TaskAssignment.taskEntrypoint : Option String :=
  assignment.taskSpec.dispatch.wasmExport.or (assignment.taskDescriptor.bind Prod.fst)

def TaskAssignment.taskAbi : Digest :=
  (assignment.taskDescriptor.bind Prod.snd).getD
    (jsonDigest taskDispatchCodec assignment.taskSpec.dispatch)

def TaskAssignment.taskCheckpoint (entrypoint : String)
    (objects : List VfsObject) (missing : Bool) : TaskCheckpoint where
  task := assignment.task
  boundary :=
    { taskEntrypoint := entrypoint
      serializedArgs := jsonDigest (.list TaskBoundaryValue.codec) assignment.taskSpec.args
      environmentDigest := assignment.taskSpec.checkpointEnvironmentDigest
      vfsEpoch := assignment.taskSpec.vfsEpoch
      taskAbi := assignment.taskAbi }
  vfsManifest :=
    { epoch := assignment.taskSpec.vfsEpoch
      producer := assignment.task
      node := assignment.node
      -- One object a path, in the order of the paths.
      objects := (objects.foldl (fun manifest object => manifest.insert object.path.path object)
        (∅ : OrderedMap String VfsObject)).values
      largeBytesUploaded := false }
  dependsOnLiveStack := false
  dependsOnLiveSocket := false
  dependsOnEphemeralArtifactDurability := missing

/-- Hold artifacts of a project for one reason. -/
def ArtifactRegistry.addHolds (registry : ArtifactRegistry) (tenant : TenantId)
    (project : ProjectId) (artifacts : List ArtifactId) (reason : ArtifactHoldReason)
    (now : ℕ) : ArtifactRegistry :=
  artifacts.foldl (fun registry artifact => registry.addHold ⟨tenant, project, artifact⟩ reason now)
    registry

/-- The checkpoint is stored before the clock is read for its holds. -/
def captureTaskRestartCheckpoint : Handler Unit := do
  let entrypoint ← orFail assignment.taskEntrypoint
    (protocolError ("cannot capture restart checkpoint for task `" ++
      assignment.taskSpec.taskDefinition.value ++
      "`: bundle descriptor omitted its Wasm export"))
  let service ← Handler.service
  let (objects, missing) ← liftExcept (service.artifactRegistry.checkpointObjects
    assignment.tenant assignment.project assignment.taskSpec.requiredArtifacts)
    fun error => .error (.invalidArtifactPath error)
  let (registry, removed) := service.taskRegistry.storeCheckpoint assignment.restartKey
    ⟨assignment.taskCheckpoint entrypoint (objects.map Prod.snd) missing, assignment⟩
    maxRestartCheckpointsPerProcess maxRestartCheckpointsTotal
  modifyTasks fun _ => registry
  modifyArtifacts fun artifacts =>
    removed.foldl (·.releaseRestartCheckpointHolds ·) artifacts
  let now ← currentEpochSeconds
  modifyArtifacts (·.addHolds assignment.tenant assignment.project
    (objects.map Prod.fst) (.restartCheckpoint assignment.process assignment.task) now)

end Checkpoints

/-! ## Offering and queueing -/

section Launches

variable [Primitives] [BundleInspection]

/-- What stays the same between the offers of a launch. -/
structure LaunchedTask where
  key : ProcessControlKey
  spec : TaskSpec
  epoch : ℕ
  artifactPath : String
  wasmModuleBase64 : String

def LaunchedTask.ownerIdentity (launch : LaunchedTask) : String :=
  "process-task\x00" ++ launch.key.tenant.value ++ "\x00" ++ launch.key.project.value ++ "\x00" ++
    launch.key.process.value ++ "\x00" ++ launch.spec.taskInstance.value

def LaunchedTask.offeredRecord (launch : LaunchedTask) (node : NodeId) (attemptId : String)
    (offerEpoch now : ℕ) : ActiveAssignmentRecord :=
  DurableState.offeredAssignment (.processTask launch.key.process launch.spec.taskInstance)
    ⟨launch.key.tenant, launch.key.project, node⟩ attemptId offerEpoch now
    nodeAssignmentOfferSeconds launch.ownerIdentity

def LaunchedTask.assignment (launch : LaunchedTask) (record : ActiveAssignmentRecord) :
    TaskAssignment where
  assignmentId := record.assignmentId
  attemptId := record.attemptId
  offerEpoch := record.offerEpoch
  offerExpiresAtEpochSeconds := record.leaseExpiresAt
  tenant := launch.key.tenant
  project := launch.key.project
  process := launch.key.process
  task := launch.spec.taskInstance
  node := record.node
  epoch := launch.epoch
  artifactPath := launch.artifactPath
  taskSpec := launch.spec
  wasmModuleBase64 := launch.wasmModuleBase64

/-- The durable offer is made before the checkpoint is captured. -/
def offerTask (launch : LaunchedTask) (placement : Placement) (attemptId : String)
    (offerEpoch now : ℕ) : Handler TaskAssignment := do
  let record := launch.offeredRecord placement.node attemptId offerEpoch now
  modifyDurable (·.offerActiveAssignment record)
  let assignment := launch.assignment record
  captureTaskRestartCheckpoint assignment
  modifyTasks (·.setPlacement assignment.controlKey placement)
  modifyTasks (·.activate assignment.controlKey)
  modifyArtifacts (·.addHolds assignment.tenant assignment.project
    launch.spec.requiredArtifacts (.consumerTask assignment.process assignment.task) now)
  return assignment

def TaskAttemptSnapshot.waitingForNode (attempt : TaskAttemptSnapshot) (reason : String) :
    TaskAttemptSnapshot :=
  { attempt with
    commandState := some "waiting_for_node"
    waitingReason := some reason }

/-! ## Offers that expire -/

def redeliveryReason : String :=
  "assigned node stopped renewing its task lease; waiting for a compatible replacement"

def TaskAttemptSnapshot.redelivered (attempt : TaskAttemptSnapshot) (attemptId : String) :
    TaskAttemptSnapshot :=
  if attempt.attemptId = attemptId then
    { attempt with
      node := none
      state := .queued
      commandState := some "offer_expired_redelivery_pending"
      waitingReason := some redeliveryReason }
  else attempt

/-- The launch that replaces an expired offer; its request is made now. -/
def CoordinatorService.redelivery (service : CoordinatorService)
    (active : ActiveAssignmentRecord) (process : ProcessId) (task : TaskInstanceId)
    (assignment : TaskAssignment) (now : ℕ) : PendingTaskLaunch where
  tenant := active.tenant
  project := active.project
  process := process
  task := task
  request := service.placementRequest active.tenant active.project assignment.taskSpec
    (if assignment.taskSpec.requestedSecrets.isEmpty then none
      else service.durable.trustedSecretNodes[(active.tenant, active.project)]?) now
  epoch := assignment.epoch
  artifactPath := assignment.artifactPath
  taskSpec := assignment.taskSpec
  wasmModuleBase64 := assignment.wasmModuleBase64
  offerEpoch := max (saturatingAdd active.offerEpoch 1) 1
  waitingReason := redeliveryReason

def redeliverOffer (active : ActiveAssignmentRecord) (process : ProcessId)
    (task : TaskInstanceId) (assignment : TaskAssignment) (now : ℕ) : Handler Unit := do
  let key : ProcessControlKey := ⟨active.tenant, active.project, process⟩
  modifyTasks fun registry => (registry.finishTask ⟨⟨key, task⟩, active.node⟩).2
  let service ← Handler.service
  runIf ((service.coordinator.activeProcess key).isSome ∧
      ¬ service.processRegistry.isCancelled key) (do
    modifyTasks (·.updateCurrentAttempt ⟨key, task⟩ (·.redelivered active.attemptId))
    modifyTasks (·.pushPendingLaunch
      (service.redelivery active process task assignment now)))

/-- The report of a node that went away with its task. -/
def nodeOfflineReport (active : ActiveAssignmentRecord) (process : ProcessId)
    (task : TaskInstanceId) : NodeRequest.TaskCompleted where
  tenant := active.tenant.value
  project := active.project.value
  node := active.node.value
  process := process.value
  task := task.value
  terminalState := some .failed
  statusCode := some 1
  stdoutBytes := 0
  stderrBytes := 0
  stdoutTail := ""
  stderrTail := "node_offline: assigned node stopped renewing its task lease"
  stdoutTruncated := false
  stderrTruncated := false
  artifactPath := none
  artifactDigest := none
  artifactSizeBytes := none
  result := none

/-- Without its checkpoint only the authority of an assignment is retired. -/
def reconcileExpiredAssignment (now : ℕ) (active : ActiveAssignmentRecord) : Handler Unit :=
  match active.kind with
  | .workflowCompiler _ => pure ()
  | .processTask process task => do
      let service ← Handler.service
      let checkpoint := service.taskRegistry.checkpoint
        ⟨⟨active.tenant, active.project, process⟩, task⟩
      modifyDurable (·.terminalizeActiveAssignment
        ⟨active.assignmentId, active.attemptId, active.offerEpoch⟩ now false)
      match checkpoint with
      | none => pure ()
      | some checkpoint =>
        if active.acknowledgedAt.isNone ∧ active.state = .offered then
          redeliverOffer active process task checkpoint.assignment now
        else do
          let _ ← handleTaskCompleted (nodeOfflineReport active process task) .coordinator
          return ()

/-! ## Nodes take queued launches -/

/-- What becomes of a queued launch when a node polls. -/
inductive PendingOutcome where
  | kept (launch : PendingTaskLaunch)
  | dropped
  | assigned (assignment : TaskAssignment)

def PendingTaskLaunch.launched (pending : PendingTaskLaunch) : LaunchedTask where
  key := pending.processKey
  spec := pending.taskSpec
  epoch := pending.epoch
  artifactPath := pending.artifactPath
  wasmModuleBase64 := pending.wasmModuleBase64

/-- The launch still belongs to the incarnation of its process. -/
def CoordinatorService.pendingIsCurrent (service : CoordinatorService)
    (pending : PendingTaskLaunch) : Bool :=
  !service.processRegistry.isCancelled pending.processKey &&
    (service.coordinator.activeProcess pending.processKey).any fun active =>
      active.tenant = pending.tenant ∧ active.project = pending.project ∧
        active.coordinatorEpoch = pending.epoch

/-- A launch that asks for secrets waits for the trusted node. -/
def CoordinatorService.secretsAllow (service : CoordinatorService) (pending : PendingTaskLaunch)
    (node : NodeId) : Bool :=
  pending.taskSpec.requestedSecrets.isEmpty ||
    service.durable.trustedSecretNodes[(pending.tenant, pending.project)]? = some node

def assignPendingLaunch (pending : PendingTaskLaunch) (placement : Placement) :
    Handler PendingOutcome := do
  assignTaskAttempt pending.taskSpec placement.node
  let service ← Handler.service
  let attempt ← orFail (service.taskRegistry.currentAttempt pending.restartKey)
    (.panicked "queued task has a current attempt")
  let now ← currentEpochSeconds
  .assigned <$> offerTask pending.launched placement attempt.attemptId pending.offerEpoch now

/-- The request of the launch is the one made when it was queued. -/
def considerPendingLaunch (scope : NodeScopeKey) (descriptor : NodeDescriptor)
    (pending : PendingTaskLaunch) : Handler PendingOutcome := do
  let service ← Handler.service
  if pending.tenant ≠ scope.tenant ∨ pending.project ≠ scope.project then
    return .kept pending
  else if !service.pendingIsCurrent pending then return .dropped
  else if !service.secretsAllow pending descriptor.id then return .kept pending
  else match DefaultScheduler.place [descriptor] pending.request with
    | .ok placement => assignPendingLaunch pending placement
    | .error message => do
        let reason := boundedWaitingReason message
        modifyTasks (·.updateCurrentAttempt pending.restartKey (·.waitingForNode reason))
        return .kept { pending with waitingReason := reason }

end Launches

end Clusterflux
