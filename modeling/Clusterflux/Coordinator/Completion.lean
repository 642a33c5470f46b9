import Clusterflux.Coordinator.Automation
import Clusterflux.Coordinator.DebugEpochs
import Clusterflux.Coordinator.TaskLogs

/-!
# Ends of tasks

Nodes report the ends of tasks.  When the main has completed, or cancellation was
requested, and nothing is left to run, the process is retired.
-/

namespace Clusterflux

open StatefulProgram Handler

def maxTaskEventsPerProcess : ℕ := 128

def maxTaskEventsTotal : ℕ := 8192

/-! ## Artifacts -/

namespace CoordinatorService

variable (service : CoordinatorService) (tenant : TenantId) (project : ProjectId)

/-- Artifacts that a checkpoint or a pending launch of the project needs. -/
def pinnedArtifacts : Finset ArtifactScopeKey :=
  let specs :=
    ((service.taskRegistry.taskRestartCheckpoints.values.map (·.assignment)).filter
      fun assignment => assignment.tenant = tenant ∧ assignment.project = project).map
        (·.taskSpec) ++
    (service.taskRegistry.pendingTaskLaunches.filter
      fun launch => launch.tenant = tenant ∧ launch.project = project).map (·.taskSpec)
  (specs.flatMap fun spec => spec.requiredArtifacts.map
    fun artifact => ⟨tenant, project, artifact⟩).toFinset

def protectedProcesses : Finset ProcessId :=
  ((service.coordinator.activeProcesses.values.filter
    fun active => active.tenant = tenant ∧ active.project = project).map (·.id)).toFinset

end CoordinatorService

def flushArtifactMetadata (flush : ArtifactFlush) : Handler Unit := do
  let now ← currentEpochSeconds
  modifyArtifacts (·.expireDownloadLinks now)
  let service ← Handler.service
  let registry ← liftExcept (service.artifactRegistry.flushMetadataWithProtectedProcesses flush
    (service.pinnedArtifacts flush.key.tenant flush.key.project)
    (service.protectedProcesses flush.key.tenant flush.key.project)) protocolError
  modifyArtifacts fun _ => registry

/-- A path that nodes report. -/
def parseArtifactPath : Option String → Handler (Option VfsPath)
  | none => pure none
  | some path => some <$> liftExcept (VfsPath.new path) fun error =>
    .error (.invalidArtifactPath error)

/-- An artifact is flushed when both its path and its digest are reported. -/
def flushReportedArtifact (key : TaskControlKey) (size : ℕ) :
    Option VfsPath → Option Digest → Handler Unit
  | some path, some digest => do
      let artifact ← liftExcept (artifactIdFromPath path) fun error =>
        .error (.invalidArtifactPath error)
      flushArtifactMetadata
        { key := ⟨key.tenant, key.project, artifact⟩
          process := key.process
          producerTask := key.task
          retainingNode := key.node
          digest := digest
          size := size }
  | _, _ => pure ()

/-! ## Events -/

def removeTaskRestartCheckpoint (key : TaskRestartKey) : Handler Unit := do
  let service ← Handler.service
  modifyTasks (·.removeCheckpoint key)
  runIf (service.taskRegistry.checkpoint key).isSome
    (modifyArtifacts (·.releaseRestartCheckpointHolds key))

/-- A main whose process has no summary opens one. -/
def recordMainTerminalState (key : ProcessControlKey) (taskDefinition : TaskDefinitionId)
    (taskInstance : TaskInstanceId) (terminalState : TaskTerminalState) : Handler Unit := do
  let service ← Handler.service
  runIf (¬ service.processRegistry.summaries.contains key) (do
    let now ← livenessNowEpochSeconds
    recordProcessStarted key now)
  modifyProcesses (·.recordMainTerminal key taskDefinition taskInstance terminalState)

section

variable (event : TaskCompletionEvent)

/-- The event with tails that are short enough. -/
def TaskCompletionEvent.bounded : TaskCompletionEvent :=
  let stdout := boundedLogTail event.stdoutTail
  let stderr := boundedLogTail event.stderrTail
  { event with
    stdoutTail := stdout.1
    stdoutTruncated := event.stdoutTruncated || stdout.2
    stderrTail := stderr.1
    stderrTruncated := event.stderrTruncated || stderr.2 }

def recordTerminalState : Handler Unit :=
  match event.executor with
  | .coordinatorMain =>
    recordMainTerminalState event.processKey event.taskDefinition event.task event.terminalState
  | .node => modifyTasks (·.setTerminalState event.restartKey event.terminalState)

def recordTaskCompletionEvent : Handler Unit := do
  recordTerminalState event.bounded
  modifyProcesses (·.recordScope event.processKey maxTaskEventsTotal)
  modifyTasks (·.appendEvent event.bounded maxTaskEventsPerProcess maxTaskEventsTotal)

/-- Who waits for the task gets its result and waits no longer. -/
def notifyCoordinatorMainWaiters (key : TaskRestartKey) : Handler Unit :=
  modifyMain fun runtime => { runtime with joinWaiters := runtime.joinWaiters.erase key }

def TaskTerminalState.attemptState : TaskTerminalState → TaskAttemptState
  | .completed => .completed
  | .failed => .failed
  | .cancelled => .cancelled

/-- A failure that an operator has to look at. -/
def TaskAttemptSnapshot.awaitsOperator (attempt : TaskAttemptSnapshot)
    (terminalState : TaskTerminalState) : Bool :=
  terminalState = .failed ∧ attempt.failurePolicy = .awaitOperator

def TaskAttemptSnapshot.finished (attempt : TaskAttemptSnapshot) (event : TaskCompletionEvent) :
    TaskAttemptSnapshot :=
  let awaiting := attempt.awaitsOperator event.terminalState
  { attempt with
    statusCode := event.statusCode
    artifactPath := event.artifactPath
    artifactDigest := event.artifactDigest
    artifactSizeBytes := event.artifactSizeBytes
    error := if isBlank event.stderrTail then none else some event.stderrTail
    state := if awaiting then .failedAwaitingAction else event.terminalState.attemptState
    commandState := some (if awaiting then "failed_awaiting_action" else event.terminalState.name) }

/-- The event under its attempt, and whether an operator has to act. -/
def finishTaskAttempt : Handler (TaskCompletionEvent × Bool) := do
  let service ← Handler.service
  match service.taskRegistry.currentAttempt event.restartKey with
  | none => return (event, false)
  | some attempt => do
      modifyTasks (·.updateCurrentAttempt event.restartKey (·.finished event))
      return ({ event with attemptId := some attempt.attemptId },
        attempt.awaitsOperator event.terminalState)

end

/-! ## Retiring a process -/

namespace CoordinatorService

variable (service : CoordinatorService) (key : ProcessControlKey)

def mainCompleted : Bool :=
  (service.processRegistry.summaries[key]?.bind (·.mainTerminalState)).any
    fun state => state = .completed

/-- Nothing of the process is left to run, and it has come to an end. -/
def retirable : Bool :=
  !service.mainRuntime.controls.contains key && !service.taskRegistry.hasRunnableRemoteWork key &&
    (service.mainCompleted key || service.processRegistry.isCancelled key)

/-- Cancellation comes before failures of tasks, and those before cancelled tasks. -/
def retiredResult : ProcessFinalResult :=
  if service.processRegistry.isCancelled key then .cancelled
  else if service.taskRegistry.hasTerminalStateForProcess key .failed then .failed
  else if service.taskRegistry.hasTerminalStateForProcess key .cancelled then .cancelled
  else .completed

end CoordinatorService

def enforceProjectMetadataLimit (tenant : TenantId) (project : ProjectId) : Handler Unit := do
  let service ← Handler.service
  modifyArtifacts (·.enforceProjectMetadataLimit tenant project
    (service.pinnedArtifacts tenant project) (service.protectedProcesses tenant project))

def retireProcess (key : ProcessControlKey) (result : ProcessFinalResult) : Handler Unit := do
  let now ← currentEpochSeconds
  recordProcessTerminal key result now
  abortActiveProcess key
  modifyDebug (·.clearProcess key)
  enforceProjectMetadataLimit key.tenant key.project

/-- The requests to cancel or to abort are forgotten before the clock is read. -/
def maybeRetireTerminalProcess (key : ProcessControlKey) : Handler Bool := do
  let service ← Handler.service
  if service.retirable key then do
    modifyProcesses (·.clearControl key)
    if (service.coordinator.activeProcess key).isNone then return false
    else do
      retireProcess key (service.retiredResult key)
      return true
  else return false

/-! ## A task ends -/

inductive TaskCompletionOrigin where
  | signedNode
  | coordinator
  deriving DecidableEq

structure TaskRecorded where
  process : ProcessId
  task : TaskInstanceId
  eventsRecorded : ℕ

/-- The event of a completion, as it is reported. -/
def completionEvent (key : TaskControlKey) (taskDefinition : TaskDefinitionId)
    (artifactPath : Option VfsPath) (request : NodeRequest.TaskCompleted)
    (stdout stderr : FinalLogStreamAcceptance) (placement : Option Placement) :
    TaskCompletionEvent where
  tenant := key.tenant
  project := key.project
  process := key.process
  node := key.node
  executor := .node
  taskDefinition := taskDefinition
  task := key.task
  attemptId := none
  placement := placement
  terminalState := request.terminalState.getD (.fromStatusCode request.statusCode)
  statusCode := request.statusCode
  stdoutBytes := stdout.totalSourceBytes
  stderrBytes := stderr.totalSourceBytes
  stdoutTail := if stdout.retained then request.stdoutTail else quotaTruncationNote
  stderrTail := if stderr.retained then request.stderrTail else quotaTruncationNote
  stdoutTruncated := request.stdoutTruncated || stdout.sourceTruncated || !stdout.retained
  stderrTruncated := request.stderrTruncated || stderr.sourceTruncated || !stderr.retained
  artifactPath := artifactPath
  artifactDigest := request.artifactDigest
  artifactSizeBytes := request.artifactSizeBytes
  result := request.result

/-- The checkpoint the coordinator issued for the task, on the node that reports. -/
def issuedCheckpoint (key : TaskControlKey) : Handler TaskRestartCheckpoint := do
  let service ← Handler.service
  let checkpoint ← orFail (service.taskRegistry.checkpoint key.toTaskRestartKey) (unauthorized
    "signed node task completion does not name a coordinator-issued task instance")
  ensure (checkpoint.assignment.node = key.node) (unauthorized
    "signed node task completion came from a node other than the assigned node")
  return checkpoint

/-- What the service keeps for a running task goes. -/
def releaseTask (key : TaskControlKey) (aborted : Bool) : Handler Unit := do
  modifyDebug (·.clearTaskCommand key)
  modifyArtifacts (·.releaseTaskHolds key.toTaskRestartKey)
  modifyLogs (·.clearTask key.toTaskRestartKey)
  runIf aborted (removeTaskRestartCheckpoint key.toTaskRestartKey)

/-- The end of the task is recorded, and the process retired if this was all. -/
def settleTask (key : TaskControlKey) (event : TaskCompletionEvent) : Handler TaskRecorded := do
  let (event, awaiting) ← finishTaskAttempt event
  recordTaskCompletionEvent event
  runIf (¬ awaiting) (notifyCoordinatorMainWaiters event.restartKey)
  let _ ← maybeRetireTerminalProcess key.toProcessControlKey
  let service ← Handler.service
  return ⟨key.process, key.task,
    (service.taskRegistry.eventsForProcess key.toProcessControlKey).length⟩

def handleTaskCompleted (request : NodeRequest.TaskCompleted) (origin : TaskCompletionOrigin) :
    Handler TaskRecorded := do
  validateTaskLogTail "stdout_tail" request.stdoutTail
  validateTaskLogTail "stderr_tail" request.stderrTail
  let artifactPath ← parseArtifactPath request.artifactPath
  let key ← newTaskKey request.toTaskFields
  runIf (origin = .signedNode) (authorizeTaskNode key)
  let checkpoint ← issuedCheckpoint key
  let now ← currentEpochSeconds
  let stdout ← acceptFinalLogStream key.toTaskRestartKey .stdout now request.stdoutBytes
    request.stdoutTail request.stdoutTruncated
  let stderr ← acceptFinalLogStream key.toTaskRestartKey .stderr now request.stderrBytes
    request.stderrTail request.stderrTruncated
  let service ← Handler.service
  let (placement, registry) := service.taskRegistry.finishTask key
  modifyTasks fun _ => registry
  reconcileDepartedDebugParticipant key
  flushReportedArtifact key (request.artifactSizeBytes.getD request.stdoutBytes) artifactPath
    request.artifactDigest
  releaseTask key (service.processRegistry.isAborted key.toProcessControlKey)
  settleTask key (completionEvent key checkpoint.assignment.taskSpec.taskDefinition artifactPath
    request stdout stderr placement)

end Clusterflux
