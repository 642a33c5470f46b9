import Clusterflux.Coordinator.MainRuntime

/-!
# Automation

A push that is delivered to the coordinator becomes a run, or joins the run of
the same commit.  The run loads its source, is compiled by a node, waits for the
process slot of its project and is launched.  Finished runs are kept until their
project has too many.
-/

namespace Clusterflux

open StatefulProgram LengthFraming Checks Handler

def maxRunsPerProject : ℕ := 64

def maxQueuedRunsPerProject : ℕ := 8

def maxPendingCompilationsPerProject : ℕ := 8

/-! ## Texts -/

def LimitKind.name : LimitKind → String
  | .apiCall => "ApiCall"
  | .spawn => "Spawn"
  | .logBytes => "LogBytes"
  | .metadataBytes => "MetadataBytes"
  | .debugReadBytes => "DebugReadBytes"
  | .uiEvent => "UiEvent"

def LimitError.text : LimitError → String
  | .exceeded kind requested used limit =>
    "resource limit exceeded for " ++ kind.name ++ ": requested " ++ toString requested ++
      ", used " ++ toString used ++ ", limit " ++ toString limit

def EnrollmentError.name : EnrollmentError → String
  | .expired => "Expired"
  | .alreadyConsumed => "AlreadyConsumed"
  | .wrongScope => "WrongScope"

def CoordinatorError.text : CoordinatorError → String
  | .unknownNode => "node identity is not enrolled"
  | .enrollment error => "node enrollment failed: " ++ error.name
  | .staleProcessEpoch staleEpoch currentEpoch =>
    "stale virtual process state from coordinator epoch " ++ toString staleEpoch ++
      "; current epoch is " ++ toString currentEpoch
  | .unauthorized message => "unauthorized coordinator action: " ++ message

def quotaText (kind : String) (current maximum : ℕ) : String :=
  kind ++ " quota exceeded (" ++ toString current ++ " of " ++ toString maximum ++ ")"

/-- `error.to_string()`. -/
def CoordinatorServiceError.text : CoordinatorServiceError → String
  | .protocol message => "coordinator protocol error: " ++ message
  | .coordinator error => "coordinator request failed: " ++ error.text
  | .scheduler message => "scheduler placement failed: " ++ message
  | .resource error => "resource limit failed: " ++ error.text
  | .capabilityReport message => "invalid node capability report: " ++ message
  | .invalidArtifactPath message => "invalid VFS artifact path reported by node: " ++ message
  | .invalidTaskLogTail message => "invalid task log tail reported by node: " ++ message
  | .terminalOperationConflict =>
    "terminal node operation conflicts with its previously committed payload"
  | .staleNodeAssignmentAcknowledgement =>
    "node assignment acknowledgement is stale or outside node scope"
  | .projectQuota current maximum => quotaText "project" current maximum
  | .nodeIdentityQuota current maximum => quotaText "node identity" current maximum
  | .activeProcessQuota current maximum => quotaText "active process" current maximum
  | .durable message => "durable coordinator state failed: " ++ message

/-- `value.rsplit('-').next()`. -/
def idSuffix (value : String) : String :=
  String.ofList (value.toList.reverse.takeWhile (· ≠ '-')).reverse

/-- The id of a run is its key without the name of the hash. -/
def runIdText (key : Digest) : String :=
  "run-" ++ String.ofList (key.text.toList.drop 7)

/-! ## Steps on one run -/

def Handler.updateRun (runId : RunId) (missing : Failure)
    (change : AutomatedRunStageRecord → AutomatedRunStageRecord) :
    Handler AutomatedRunStageRecord := do
  let service ← Handler.service
  let record ← orFail service.durable.automatedRuns[runId]? missing
  modifyDurable (·.modifyRun runId change)
  return change record

def unknownAutomatedRun : Failure := protocolError "unknown automated run"

def Handler.automatedRun (runId : RunId) : Handler AutomatedRunStageRecord := do
  let service ← Handler.service
  orFail service.durable.automatedRuns[runId]? unknownAutomatedRun

namespace AutomatedRunStageRecord

variable (record : AutomatedRunStageRecord)

def withState (state : AutomatedRunState) : AutomatedRunStageRecord :=
  { record with run := { record.run with state := state } }

/-- The run ends before it has run as a process; what it was compiled from goes. -/
def stopped (state : AutomatedRunState) (now : ℕ) : AutomatedRunStageRecord :=
  { record with
    run := { record.run with state := state, endedAt := some now }
    compilationRequest := none
    source := none
    compiledBundle := none }

/-- Nothing is known about a new run but its commit. -/
def begun (run : AutomatedRunRecord) (runKey : Digest) : AutomatedRunStageRecord where
  run := run
  runKey := runKey
  source := none
  revisionEnvironments := []
  revision := none
  compilationRequest := none
  assignmentRetry := ⟨0, 0⟩
  compiledBundle := none
  compiledSummary := none
  triggerContext := none
  launchAttempt := none

end AutomatedRunStageRecord

/-- The message is cut after so many characters. -/
def boundedStageFailure (message : String) : String :=
  String.ofList (message.toList.take maxAutomatedRunFailureBytes)

def AutomatedRunStageRecord.failedStage (record : AutomatedRunStageRecord)
    (code message : String) (now : ℕ) : AutomatedRunStageRecord :=
  let stopped := record.stopped .failed now
  { stopped with run := { stopped.run with
      failureCode := some code
      failureMessage := some (boundedStageFailure message) } }

/-- A run that has ended is left as it is, except for its assignment. -/
def failAutomatedRun (runId : RunId) (code message : String) : Handler Unit := do
  let now ← currentEpochSeconds
  modifyDurable (·.terminalizeSystemAssignmentForRun runId now)
  let record ← Handler.automatedRun runId
  runIf (record.run.state.isTerminal = false) (do
    modifyDurable (·.modifyRun runId (·.failedStage code message now))
    persistDurableState)

def failAutomatedRunStage (runId : RunId) (code message : String) : Handler Unit :=
  failAutomatedRun runId code message

/-! ## History -/

namespace DurableState

variable (durable : DurableState) (tenant : TenantId) (project : ProjectId)

def projectRunCount : ℕ :=
  durable.automatedRuns.values.countP (·.ofProject tenant project)

def queuedRunCount : ℕ :=
  durable.automatedRuns.values.countP fun record => record.ofProject tenant project &&
    !record.run.state.isTerminal && record.run.state ≠ .running

/-- The finished runs of a project, the oldest first. -/
def terminalRuns : List (RunId × AutomatedRunStageRecord) :=
  (durable.automatedRuns.toList.filter fun (_, record) =>
    record.ofProject tenant project && record.run.state.isTerminal).mergeSort
      fun left right => (compare (left.2.run.createdAt, left.1)
        (right.2.run.createdAt, right.1)).isLE

/-- The runs that have to go before a project can get one more; none if there is
room or too few are finished. -/
def removableRuns : List (RunId × AutomatedRunStageRecord) :=
  let count := durable.projectRunCount tenant project
  let removeCount := count + 1 - maxRunsPerProject
  let terminal := durable.terminalRuns tenant project
  if count < maxRunsPerProject ∨ terminal.length < removeCount then []
  else terminal.take removeCount

variable [Primitives]

/-- A trigger goes with the run it started, and with the run of its commit unless it
started another one. -/
def removesTrigger (removed : List (RunId × AutomatedRunStageRecord)) (triggerId : TriggerId)
    (record : AcceptedCommitTriggerRecord) : Bool :=
  (removed.map (·.2.run.primaryTriggerId)).contains triggerId ||
    (decide (record.tenant = tenant ∧ record.project = project) &&
      (removed.map (·.2.runKey)).contains (record.trigger.runIdentity project) &&
      !durable.automatedRuns.toList.any fun (runId, survivor) =>
        !(removed.map (·.1)).contains runId && survivor.run.primaryTriggerId = triggerId)

def removeRuns (removed : List (RunId × AutomatedRunStageRecord)) : DurableState :=
  { durable with
    automatedRuns := durable.automatedRuns.filter fun runId _ =>
      !(removed.map (·.1)).contains runId
    automatedRunKeys := durable.automatedRunKeys.filter fun runKey _ =>
      !(removed.map (·.2.runKey)).contains runKey
    acceptedCommitTriggers := durable.acceptedCommitTriggers.filter fun triggerId record =>
      !durable.removesTrigger tenant project removed triggerId record
    triggerDeliveries := durable.triggerDeliveries.filter fun _ triggerId =>
      !durable.acceptedCommitTriggers[triggerId]?.any
        (durable.removesTrigger tenant project removed triggerId) }

end DurableState

def ensureRunQueue (tenant : TenantId) (project : ProjectId) : Handler Unit := do
  let service ← Handler.service
  ensure (service.durable.queuedRunCount tenant project < maxQueuedRunsPerProject)
    (protocolError ("project automated-run queue is full (" ++
      toString maxQueuedRunsPerProject ++ ")"))

def ensureRunRetention (tenant : TenantId) (project : ProjectId) : Handler Unit := do
  let service ← Handler.service
  ensure (service.durable.projectRunCount tenant project < maxRunsPerProject)
    (protocolError ("project automated-run retention is full (" ++
      toString maxRunsPerProject ++ ")"))

/-! ## Source -/

/-- The first run that a trigger started is marked as loading, whatever its state. -/
def claimSourceLoad (triggerId : TriggerId) : Handler RunId := do
  let service ← Handler.service
  let runId ← orFail (service.durable.findRun fun record =>
      record.run.primaryTriggerId = triggerId) (protocolError "unknown trigger run")
  modifyDurable (·.modifyRun runId fun record =>
    if record.source.isNone then record.withState .loadingSource else record)
  persistDurableState
  return runId

namespace AutomatedRunStageRecord

variable (record : AutomatedRunStageRecord)

/-- The source and the revision are those of the commit of the run. -/
def hasCommit (source : WorkflowSource) (revision : RepositoryRevision) : Bool :=
  source.triggerId = record.run.primaryTriggerId ∧
    source.repositoryId = record.run.repositoryId ∧ source.commitSha = record.run.commitSha ∧
    revision.repositoryId = record.run.repositoryId ∧ revision.commitSha = record.run.commitSha

def withSource (source : WorkflowSource) (revision : RepositoryRevision) :
    AutomatedRunStageRecord :=
  { record with
    run := { record.run with
      workflowTreeDigest := some source.treeDigest
      state := .loadingSource }
    revisionEnvironments := source.environments
    source := some source
    revision := some revision }

/-- The request takes the place of the source. -/
def withRequest (request : WorkflowCompilationRequest) : AutomatedRunStageRecord :=
  { record with
    compilationRequest := some request
    source := none
    run := { record.run with
      state := .waitingForCompilerNode
      waitingReason := some "no_attached_compatible_node" } }

end AutomatedRunStageRecord

section Compilation

variable [BundleInspection]

/-- A source that the run has already is accepted again, another one is not. -/
def storeRunSource (runId : RunId) (record : AutomatedRunStageRecord) (source : WorkflowSource)
    (revision : RepositoryRevision) : Handler AutomatedRunStageRecord := do
  ensure (record.hasCommit source revision)
    (unauthorized "workflow source or repository revision does not match its run")
  if record.source.isSome then do
    ensure (record.source = some source ∧ record.revision = some revision)
      (protocolError "automated run source was retried with different content")
    return record
  else do
    modifyDurable (·.modifyRun runId (·.withSource source revision))
    persistDurableState
    return record.withSource source revision

def recordAutomatedRunSource (runId : RunId) (source : WorkflowSource)
    (revision : RepositoryRevision) : Handler AutomatedRunStageRecord := do
  liftExcept (BundleInspection.validateSource source) protocolError
  liftExcept revision.validate protocolError
  let record ← Handler.automatedRun runId
  if record.run.state.isTerminal then return record
  else storeRunSource runId record source revision

def DurableState.pendingCompilations (durable : DurableState) (tenant : TenantId)
    (project : ProjectId) : ℕ :=
  durable.automatedRuns.values.countP fun record => record.ofProject tenant project &&
    record.inCompilation && record.compiledBundle.isNone && record.compiledSummary.isNone

def storeCompilationRequest (record : AutomatedRunStageRecord)
    (request : WorkflowCompilationRequest) : Handler AutomatedRunStageRecord :=
  if record.compilationRequest.isSome then do
    ensure (record.compilationRequest = some request)
      (protocolError "compiler stage was retried with a different request")
    return record
  else do
    ensure (record.source = some request.source)
      (unauthorized "compiler request does not contain the run's exact loaded source")
    modifyDurable (·.modifyRun request.runId (·.withRequest request))
    persistDurableState
    return record.withRequest request

def enqueueWorkflowCompilation (request : WorkflowCompilationRequest) :
    Handler AutomatedRunStageRecord := do
  liftExcept request.validate protocolError
  let record ← Handler.automatedRun request.runId
  let service ← Handler.service
  ensure (service.durable.pendingCompilations record.run.tenant record.run.project <
      maxPendingCompilationsPerProject)
    (protocolError ("project compiler queue is full (" ++
      toString maxPendingCompilationsPerProject ++ ")"))
  if record.run.state.isTerminal then return record
  else storeCompilationRequest record request

/-! ## Results of the compiler -/

namespace WorkflowCompilationResult

variable (result : WorkflowCompilationResult)

def authority : AssignmentAuthority :=
  ⟨result.assignmentId, result.attemptId, result.leaseEpoch⟩

/-- The transcript of the compiler explains a failure. -/
def failureText : String :=
  if result.retryable then
    "workflow compilation exhausted " ++ toString maxSystemAssignmentAttempts ++
      " bounded node attempts: " ++ result.compilerTranscript
  else result.compilerTranscript

end WorkflowCompilationResult

section

variable (record : AutomatedRunStageRecord)

variable (result : WorkflowCompilationResult)

/-- What a result makes of its run.  A failure that can be retried waits for another
node while there are attempts. -/
def AutomatedRunStageRecord.compiled (endedAt : Option ℕ) : AutomatedRunStageRecord :=
  match result.bundle with
  | some bundle =>
    { record with
      run := { record.run with
        bundleDigest := some bundle.bundleDigest
        state := .waitingForProcessSlot }
      compiledBundle := some bundle }
  | none =>
    if result.retryable ∧ record.assignmentRetry.attempts < maxSystemAssignmentAttempts then
      { record with run := { record.run with
          state := .waitingForCompilerNode
          waitingReason := some "eligible_node_retry_pending" } }
    else
      { record with
        run := { record.run with
          state := .failed
          endedAt := endedAt
          failureCode := result.failureCode
          failureMessage := some result.failureText }
        compilationRequest := none
        source := none
        compiledBundle := none }

/-- A bundle must be the one of the source that was sent. -/
def checkBundle :
    Option CompiledWorkflowBundle → Handler Unit
  | none => pure ()
  | some bundle => do
      liftExcept (BundleInspection.validateCompiledModule bundle record.run.workflowTreeDigest
        record.compilationRequest) protocolError
      ensure (bundle.environments =
          (record.compilationRequest.map (·.source.environments)).getD [])
        (protocolError ("compiled bundle environment identities do not match the exact " ++
          "triggered revision"))

/-- The clock is read once more when the compilation has failed. -/
def failureTime : Option CompiledWorkflowBundle → Handler (Option ℕ)
  | some _ => pure none
  | none => some <$> currentEpochSeconds

def storeCompilerResult
    (now : ℕ) : Handler AutomatedRunStageRecord := do
  checkBundle record result.bundle
  let endedAt ← failureTime result.bundle
  modifyDurable (·.terminalizeActiveAssignment result.authority now true)
  let response ← Handler.updateRun result.runId
    (.panicked "compiler result run existence was checked above")
    (·.compiled result endedAt)
  persistDurableState
  return response

/-- A result counts under the assignment that is active for the run, or under one
that has ended and may be replayed. -/
def acceptCompilerResult : Handler AutomatedRunStageRecord := do
  let scope := NodeScopeKey.mk record.run.tenant record.run.project result.node
  let now ← currentEpochSeconds
  let service ← Handler.service
  let active := service.durable.activeAssignments[result.assignmentId]?.any fun active =>
    active.kind = .workflowCompiler result.runId
  ensure ((active && service.durable.activeAssignmentIsAuthorized scope result.authority now) ||
      service.durable.terminalAssignmentMatches scope result.authority)
    (unauthorized "system task result is stale, expired, or was not acknowledged")
  match record.compiledBundle with
  | some bundle => do
      ensure (result.bundle.map (·.bundleDigest) = some bundle.bundleDigest)
        (protocolError "compiler result was retried with different content")
      return record
  | none => storeCompilerResult record result now

end

def reportCompileWorkflow (result : WorkflowCompilationResult) :
    Handler AutomatedRunStageRecord := do
  liftExcept result.validate protocolError
  let record ← Handler.automatedRun result.runId
  if record.run.state.isTerminal then do
    let service ← Handler.service
    ensure (service.durable.terminalAssignmentMatches
        ⟨record.run.tenant, record.run.project, result.node⟩ result.authority)
      (unauthorized
        "terminal system task result does not match retained assignment history")
    return record
  else acceptCompilerResult record result

def reportSystemTask (result : SystemTaskResult) : Handler AutomatedRunStageRecord := do
  liftExcept result.validate protocolError
  ensure (result.bundleId = BundleInspection.systemManifest.bundleId ∧
      result.bundleDigest = BundleInspection.systemManifest.bundleDigest)
    (unauthorized "system task result does not match this release's pinned bundle")
  reportCompileWorkflow result.result

end Compilation

/-! ## Launching -/

def TriggerContext.validate (context : TriggerContext) : Except String Unit := do
  validateCommitSha context.commitSha
  validateBoundedText "Git ref" context.gitRef 512
  refuseIf (!context.sourceSnapshot.isValidSha256)
    "trigger source snapshot is not a SHA-256 digest"

def AutomatedRunRecord.triggerContext (run : AutomatedRunRecord) (sourceSnapshot : Digest) :
    TriggerContext where
  triggerId := run.primaryTriggerId
  repositoryId := run.repositoryId
  commitSha := run.commitSha
  gitRef := run.gitRef
  trusted := run.trusted
  sourceSnapshot := sourceSnapshot

/-- Requests that the coordinator makes itself. -/
def triggerActor : WorkflowActorFields where
  actorUser := some "clusterflux-trigger"
  actorAgent := none
  agentPublicKeyFingerprint := none
  agentSignature := none
  requestPayloadDigest := none

/-- The main of a run. -/
def mainSpec (run : AutomatedRunRecord) (process : ProcessId) (entrypoint : TaskDefinitionId)
    (taskInstance : TaskInstanceId) (entrypointExport : String) (revision : RepositoryRevision)
    (bundle : CompiledWorkflowBundle) (vfsEpoch : ℕ) : TaskSpec where
  tenant := run.tenant
  project := run.project
  process := process
  taskDefinition := entrypoint
  taskInstance := taskInstance
  dispatch := ⟨some entrypointExport, .entrypointV1⟩
  environmentId := none
  environment := none
  environmentDigest := none
  requiredCapabilities := ∅
  dependencyCache := none
  sourceSnapshot := some revision.sourceSnapshot
  sourceRevision := some revision
  requiredArtifacts := []
  args := []
  requestedSecrets := []
  vfsEpoch := vfsEpoch
  failurePolicy := .failFast
  bundleDigest := some bundle.executionModuleDigest

namespace AutomatedRunStageRecord

variable (record : AutomatedRunStageRecord)

def launching (process : ProcessId) (launchAttempt : String) : AutomatedRunStageRecord :=
  { record with
    run := { record.run with state := .launching, processId := some process }
    launchAttempt := some launchAttempt }

/-- Of the bundle only a summary is kept once the main runs. -/
def launched (bundle : CompiledWorkflowBundle) (now : ℕ) : AutomatedRunStageRecord :=
  { record with
    run := { record.run with
      state := .running
      startedAt := some (record.run.startedAt.getD now) }
    compiledSummary := some bundle.summary
    compiledBundle := none
    compilationRequest := none
    source := none }

end AutomatedRunStageRecord

def runExists : Failure := .panicked "run exists"

/-- The process a run is launched as. -/
def processForRun (runId : RunId) : Option ProcessId → Handler ProcessId
  | some process => pure process
  | none => newId .process ("process-" ++ idSuffix runId.value)

/-- The slot is taken. -/
def deferLaunch (runId : RunId) : Handler AutomatedRunStageRecord := do
  let response ← Handler.updateRun runId runExists (·.withState .waitingForProcessSlot)
  persistDurableState
  return response

section Launching

variable [Primitives] [BundleInspection]

/-- A process whose main was refused is taken back. -/
def finishLaunch (runId : RunId) (run : AutomatedRunRecord) (process : ProcessId)
    (launchAttempt : String) (bundle : CompiledWorkflowBundle) :
    Except CoordinatorServiceError MainLaunched → Handler AutomatedRunStageRecord
  | .error error => do
      let _ ← Handler.attempt (handleAbortProcess run.tenant.value run.project.value
        process.value (some launchAttempt))
      failAutomatedRun runId "launch_failed" error.text
      throw (.error error)
  | .ok _ => do
      let now ← currentEpochSeconds
      let response ← Handler.updateRun runId runExists (·.launched bundle now)
      persistDurableState
      return response

/-- How far the launch of a run has come when the main was launched or refused. -/
structure LaunchedProcess where
  process : ProcessId
  launchAttempt : String
  outcome : Except CoordinatorServiceError MainLaunched

/-- The process is started, told where it comes from, and given its main. -/
def attemptLaunch (runId : RunId) (snapshot : AutomatedRunStageRecord)
    (bundle : CompiledWorkflowBundle) (revision : RepositoryRevision)
    (entrypointExport : String) : Handler LaunchedProcess := do
  let run := snapshot.run
  let process ← processForRun runId run.processId
  let launchAttempt := snapshot.launchAttempt.getD ("launch-" ++ idSuffix runId.value)
  let _ ← Handler.updateRun runId runExists (·.launching process launchAttempt)
  persistDurableState
  let started ← handleStartProcess run.tenant.value run.project.value triggerActor process.value
    (some launchAttempt) false
  let service ← Handler.service
  ensure (service.durable.acceptedCommitTriggers.contains run.primaryTriggerId)
    (protocolError "run trigger was removed")
  let context := run.triggerContext revision.sourceSnapshot
  liftExcept context.validate protocolError
  let _ ← Handler.updateRun runId runExists fun record =>
    { record with triggerContext := some context }
  persistDurableState
  let entrypoint ← newId .taskDefinition bundle.defaultEntrypoint
  let taskInstance ← newId .taskInstance ("main-" ++ idSuffix runId.value)
  let outcome ← Handler.attempt (handleLaunchTask run.tenant.value run.project.value triggerActor
    (mainSpec run process entrypoint taskInstance entrypointExport revision bundle started.epoch)
    bundle.moduleBase64)
  return ⟨process, launchAttempt, outcome⟩

def startRun (runId : RunId) (snapshot : AutomatedRunStageRecord)
    (bundle : CompiledWorkflowBundle) (revision : RepositoryRevision)
    (entrypointExport : String) : Handler AutomatedRunStageRecord := do
  let launched ← attemptLaunch runId snapshot bundle revision entrypointExport
  finishLaunch runId snapshot.run launched.process launched.launchAttempt bundle launched.outcome

/-- A run waits while another process has the slot of its project. -/
def launchCompiledRun (runId : RunId) (snapshot : AutomatedRunStageRecord) :
    Handler AutomatedRunStageRecord := do
  let bundle ← orFail snapshot.compiledBundle (protocolError "automated run is not compiled")
  let revision ← orFail snapshot.revision
    (protocolError "automated run has no repository revision")
  let entrypointExport ← liftExcept (BundleInspection.compiledEntrypointExport
    bundle.moduleBase64 bundle.defaultEntrypoint) protocolError
  let service ← Handler.service
  if (service.coordinator.activeProcessForProject snapshot.run.tenant snapshot.run.project).any
      fun active => snapshot.run.processId ≠ some active.id then
    deferLaunch runId
  else startRun runId snapshot bundle revision entrypointExport

def launchAutomatedRun (runId : RunId) : Handler AutomatedRunStageRecord := do
  let snapshot ← Handler.automatedRun runId
  if snapshot.run.state = .running ∨ snapshot.run.state.isTerminal then return snapshot
  else launchCompiledRun runId snapshot

end Launching

/-! ## Stopping -/

/-- The process of a run is asked to stop. -/
def cancelRunProcess (run : AutomatedRunRecord) : Option ProcessId → Handler Unit
  | none => pure ()
  | some process => do
      let service ← Handler.service
      runIf (service.coordinator.activeProcess ⟨run.tenant, run.project, process⟩).isSome (do
        let _ ← handleCancelProcess run.tenant.value run.project.value process.value
        pure ())

def cancelAutomatedRun (runId : RunId) : Handler AutomatedRunStageRecord := do
  let snapshot ← Handler.automatedRun runId
  if snapshot.run.state.isTerminal then return snapshot
  else do
    cancelRunProcess snapshot.run snapshot.run.processId
    let now ← currentEpochSeconds
    modifyDurable (·.terminalizeSystemAssignmentForRun runId now)
    let response ← Handler.updateRun runId runExists (·.stopped .cancelled now)
    persistDurableState
    return response

/-- A restart of the coordinator ends every run whose process was running. -/
def AutomatedRunStageRecord.interrupted (record : AutomatedRunStageRecord) (now : ℕ) :
    AutomatedRunStageRecord :=
  { record with
    run := { record.run with
      state := .failed
      processId := none
      endedAt := some now
      failureCode := some "coordinator_restart_interrupted_run"
      failureMessage := some ("The coordinator restarted while this automated process was " ++
        "running; retry the run after the coordinator is healthy.")
      waitingReason := none }
    triggerContext := none
    launchAttempt := none }

def interruptRun (now : ℕ) (runId : RunId) : Handler Unit := do
  modifyDurable (·.terminalizeSystemAssignmentForRun runId now)
  let _ ← Handler.updateRun runId (.panicked "interrupted automated run still exists")
    (·.interrupted now)

def reconcileAutomatedRunsAfterCoordinatorRestart : Handler ℕ := do
  let service ← Handler.service
  let interrupted := (service.durable.automatedRuns.toList.filter fun (_, record) =>
    record.run.state = .running).map Prod.fst
  if interrupted = [] then return 0
  else do
    let now ← currentEpochSeconds
    forM interrupted (interruptRun now)
    persistDurableState
    return interrupted.length

/-- What the main of a run published is shown with the run. -/
def recordAutomatedPublicationBoundary [BundleInspection] (key : ProcessControlKey)
    (boundary : Option TaskBoundaryValue) : Handler Unit := do
  let service ← Handler.service
  match boundary.bind BundleInspection.publication, service.durable.findRun (·.runsProcess key) with
  | some (tag, url), some runId => do
      modifyDurable (·.modifyRun runId fun record =>
        { record with run := { record.run with
            publicationTag := some tag
            publicationUrl := some url } })
      persistIgnoringFailure
  | _, _ => pure ()

/-! ## Triggers -/

section Triggers

variable [Primitives]

def compactAutomatedRunHistory (tenant : TenantId) (project : ProjectId) : Handler Unit := do
  let service ← Handler.service
  let removed := service.durable.removableRuns tenant project
  runIf (removed ≠ []) (do
    modifyDurable (·.removeRuns tenant project removed)
    persistDurableState)

/-- A project may get one more run. -/
def admitRun (tenant : TenantId) (project : ProjectId) : Handler Unit := do
  ensureRunQueue tenant project
  compactAutomatedRunHistory tenant project
  ensureRunRetention tenant project

/-- The run of a commit that was pushed. -/
def acceptedRun (runId : RunId) (tenant : TenantId) (project : ProjectId)
    (trigger : CommitTrigger) : AutomatedRunRecord where
  runId := runId
  primaryTriggerId := trigger.triggerId
  tenant := tenant
  project := project
  repositoryId := trigger.repositoryId
  commitSha := trigger.commitSha
  gitRef := trigger.gitRef
  trusted := trigger.trusted
  workflowTreeDigest := none
  bundleDigest := none
  state := .accepted
  processId := none
  createdAt := trigger.receivedAt
  startedAt := none
  endedAt := none
  failureCode := none
  failureMessage := none
  waitingReason := none
  publicationTag := none
  publicationUrl := none

/-- The run under a key, or the id of a new one. -/
def runForKey (runKey : Digest) : Option RunId → Handler RunId
  | some runId => pure runId
  | none => newId .run (runIdText runKey)

/-- A trigger is stored with the index entries that lead to its run. -/
def DurableState.storeDelivery (durable : DurableState) (accepted : AcceptedCommitTriggerRecord)
    (runKey : Digest) (runId : RunId) (record : AutomatedRunStageRecord) : DurableState :=
  { durable with
    triggerDeliveries := durable.triggerDeliveries.insert
      (accepted.bindingId, accepted.trigger.deliveryId) accepted.trigger.triggerId
    acceptedCommitTriggers :=
      durable.acceptedCommitTriggers.insert accepted.trigger.triggerId accepted
    automatedRunKeys := durable.automatedRunKeys.insert runKey runId
    automatedRuns := durable.automatedRuns.insert runId record }

/-- A new delivery joins the run of its commit, or starts one. -/
def acceptDelivery (accepted : AcceptedCommitTriggerRecord) :
    Handler AutomatedRunStageRecord := do
  let runKey := accepted.trigger.runIdentity accepted.project
  let service ← Handler.service
  runIf (¬ service.durable.automatedRunKeys.contains runKey)
    (admitRun accepted.tenant accepted.project)
  let service ← Handler.service
  let runId ← runForKey runKey service.durable.automatedRunKeys[runKey]?
  let record := service.durable.automatedRuns[runId]?.getD (.begun
    (acceptedRun runId accepted.tenant accepted.project accepted.trigger) runKey)
  modifyDurable (·.storeDelivery accepted runKey runId record)
  persistDurableState
  return record

/-- A delivery that is repeated with the same body gets the run it got before. -/
def redeliveredRun (triggerId : TriggerId) (bodyDigest : Digest) :
    Handler AutomatedRunStageRecord := do
  let service ← Handler.service
  let existing ← orFail service.durable.acceptedCommitTriggers[triggerId]?
    (.panicked "delivery index references an accepted trigger")
  ensure (existing.bodyDigest = bodyDigest)
    (protocolError "forge delivery ID was replayed with a different body")
  let runId ← orFail
    service.durable.automatedRunKeys[existing.trigger.runIdentity existing.project]?
    (.panicked "accepted trigger references a durable run")
  orFail service.durable.automatedRuns[runId]?
    (protocolError "accepted trigger references a missing run")

def acceptCommitTrigger (accepted : AcceptedCommitTriggerRecord) :
    Handler AutomatedRunStageRecord := do
  liftExcept accepted.trigger.validate protocolError
  ensure accepted.bodyDigest.isValidSha256
    (protocolError "webhook body digest is not a SHA-256 digest")
  let service ← Handler.service
  let configured ← orFail (service.coordinator.project accepted.project)
    (unauthorized "trigger project does not exist")
  ensure (configured.tenant = accepted.tenant)
    (unauthorized "trigger project is outside the tenant scope")
  match service.durable.triggerDeliveries[(accepted.bindingId, accepted.trigger.deliveryId)]? with
  | some triggerId => redeliveredRun triggerId accepted.bodyDigest
  | none => acceptDelivery accepted

/-! ## Retries -/

def retryKey (runId : RunId) (retry : ℕ) : Digest :=
  Digest.fromParts ([ "clusterflux-automated-run-retry:v1", runId.value,
    toString retry ].map utf8)

/-- The first number of a retry whose key is free. -/
def DurableState.freeRetry (durable : DurableState) (runId : RunId) : Option ℕ :=
  ((List.range maxRunsPerProject).map (· + 1)).find? fun retry =>
    !durable.automatedRunKeys.contains (retryKey runId retry)

/-- The commit of a run, to be run again under another id. -/
def AutomatedRunRecord.retried (run : AutomatedRunRecord) (runId : RunId)
    (triggerId : TriggerId) (now : ℕ) : AutomatedRunRecord :=
  { run with
    runId := runId
    primaryTriggerId := triggerId
    workflowTreeDigest := none
    bundleDigest := none
    state := .accepted
    processId := none
    createdAt := now
    startedAt := none
    endedAt := none
    failureCode := none
    failureMessage := none
    waitingReason := none
    publicationTag := none
    publicationUrl := none }

/-- The trigger of a retry stands for no delivery: it is stored, and not indexed. -/
def AcceptedCommitTriggerRecord.retried (accepted : AcceptedCommitTriggerRecord)
    (runId : RunId) (retry : ℕ) (triggerId : TriggerId) (now : ℕ) :
    AcceptedCommitTriggerRecord :=
  { accepted with
    bodyDigest := Digest.sha256 (utf8 ("manual-retry\x00" ++ runId.value ++ "\x00" ++
      toString retry))
    trigger := { accepted.trigger with
      triggerId := triggerId
      deliveryId := "manual-retry-" ++ runId.value ++ "-" ++ toString retry
      receivedAt := now } }

def DurableState.storeRetry (durable : DurableState) (accepted : AcceptedCommitTriggerRecord)
    (runKey : Digest) (runId : RunId) (record : AutomatedRunStageRecord) : DurableState :=
  { durable with
    acceptedCommitTriggers :=
      durable.acceptedCommitTriggers.insert accepted.trigger.triggerId accepted
    automatedRunKeys := durable.automatedRunKeys.insert runKey runId
    automatedRuns := durable.automatedRuns.insert runId record }

def retryAutomatedRun (runId : RunId) : Handler AutomatedRunStageRecord := do
  let snapshot ← Handler.automatedRun runId
  ensure (snapshot.run.state = .failed ∨ snapshot.run.state = .cancelled)
    (protocolError "only failed or cancelled automated runs can be retried")
  let service ← Handler.service
  let accepted ← orFail service.durable.acceptedCommitTriggers[snapshot.run.primaryTriggerId]?
    (protocolError "automated run no longer has retained trigger source")
  admitRun snapshot.run.tenant snapshot.run.project
  let service ← Handler.service
  let retry ← orFail (service.durable.freeRetry runId)
    (protocolError "automated run retry history is full")
  let retryRunId ← newId .run (runIdText (retryKey runId retry))
  let triggerId ← newId .trigger ("trigger-retry-" ++ idSuffix retryRunId.value)
  let now ← currentEpochSeconds
  let record := AutomatedRunStageRecord.begun (snapshot.run.retried retryRunId triggerId now)
    (retryKey runId retry)
  modifyDurable (·.storeRetry (accepted.retried runId retry triggerId now)
    (retryKey runId retry) retryRunId record)
  persistDurableState
  return record

end Triggers

end Clusterflux
