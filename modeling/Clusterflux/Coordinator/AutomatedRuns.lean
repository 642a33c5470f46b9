import Clusterflux.Coordinator.Nodes

/-!
# Automated runs

The compilation of a run is offered to polling nodes as a system task, under a
durable assignment of its own.  Later the run follows the process it was
launched as.
-/

namespace Clusterflux

open StatefulProgram LengthFraming Handler

def systemAssignmentLeaseSeconds : ℕ := 180

def systemAssignmentOfferSeconds : ℕ := 30

def maxSystemAssignmentAttempts : ℕ := 5

/-! ## Offers -/

structure SystemTaskAssignment where
  ownerRun : RunId
  bundleId : String
  bundleDigest : Digest
  environmentDigest : Digest
  compileWorkflow : WorkflowCompilationRequest

inductive NodeAssignmentWork where
  | task (assignment : TaskAssignment)
  | systemTask (assignment : SystemTaskAssignment)

structure NodeAssignmentOffer where
  assignmentId : String
  attemptId : String
  scope : NodeScopeKey
  leaseEpoch : ℕ
  expiresAtEpochSeconds : ℕ
  work : NodeAssignmentWork

/-- A write whose failure is ignored. -/
def Handler.persistIgnoringFailure : Handler Unit := do
  let _ ← Handler.observe (·.storeAccepts 0) fun environment =>
    { environment with toWorld := environment.afterStore }
  return ()

/-! ## Records of runs -/

def AutomatedRunStageRecord.ofProject (record : AutomatedRunStageRecord) (tenant : TenantId)
    (project : ProjectId) : Bool :=
  record.run.tenant = tenant ∧ record.run.project = project

/-- The run was launched as the process. -/
def AutomatedRunStageRecord.runsProcess (record : AutomatedRunStageRecord)
    (key : ProcessControlKey) : Bool :=
  record.ofProject key.tenant key.project && record.run.processId = some key.process

/-- The run is being compiled or waits for it. -/
def AutomatedRunStageRecord.inCompilation (record : AutomatedRunStageRecord) : Bool :=
  record.run.state = .waitingForCompilerNode ∨ record.run.state = .compilingWorkflow

namespace DurableState

variable (durable : DurableState)

def modifyRun (runId : RunId)
    (change : AutomatedRunStageRecord → AutomatedRunStageRecord) : DurableState :=
  { durable with automatedRuns := durable.automatedRuns.modify runId change }

/-- The first run, in the order of identifiers, with a property. -/
def findRun (property : AutomatedRunStageRecord → Bool) : Option RunId :=
  (durable.automatedRuns.toList.find? fun (_, record) => property record).map Prod.fst

def terminalizeSystemAssignmentForRun (runId : RunId) (now : ℕ) : DurableState :=
  match durable.activeAssignmentForKind (.workflowCompiler runId) with
  | none => durable
  | some active => durable.terminalizeActiveAssignment active.authority now false

/-- Compiler assignments of every project whose lease has lapsed are retired. -/
def terminalizeExpiredCompilers (now : ℕ) : DurableState :=
  ((durable.expiredActiveAssignments now).filter fun active =>
    match active.kind with
    | .workflowCompiler _ => true
    | .processTask _ _ => false).foldl
      (fun durable active => durable.terminalizeActiveAssignment active.authority now false)
      durable

end DurableState

/-! ## The process of a run -/

def boundedAutomatedFailureMessage (start detail : String) : String :=
  let separator := "\n…\n"
  if start.utf8ByteSize + 1 + detail.utf8ByteSize ≤ maxAutomatedRunFailureBytes then
    start ++ " " ++ detail
  else
    start ++ separator ++ String.ofList (suffixWithin
      (maxAutomatedRunFailureBytes - (start.utf8ByteSize + separator.utf8ByteSize))
      detail.toList)

/-- The last failed event of a node explains the failure, or else the last failed
event. -/
def TaskRegistry.automatedProcessFailureMessage (registry : TaskRegistry)
    (key : ProcessControlKey) : String :=
  let failed := registry.taskEvents.reverse.filter fun event =>
    event.processKey = key ∧ event.terminalState = .failed
  match (failed.find? fun event => event.executor = .node) <|> failed.head? with
  | none => "The automated process failed without a retained task diagnostic."
  | some event =>
    let detail := trim event.stderrTail
    let detail := if detail ≠ "" then detail else match event.statusCode with
      | none => "no error text was reported"
      | some status => "command exited with status " ++ toString status
    boundedAutomatedFailureMessage ("Task " ++ event.task.value ++ " (" ++
      event.taskDefinition.value ++ ") failed:") detail

def ProcessFinalResult.runState : ProcessFinalResult → AutomatedRunState
  | .completed => .completed
  | .failed => .failed
  | .cancelled => .cancelled

/-- The run of a process ends with it. -/
def AutomatedRunStageRecord.ended (record : AutomatedRunStageRecord)
    (result : ProcessFinalResult) (failureMessage : String) (now : ℕ) :
    AutomatedRunStageRecord :=
  let run := { record.run with
    state := result.runState
    waitingReason := none
    endedAt := some now }
  { record with
    run := if result = .failed then
        { run with failureCode := some "process_failed", failureMessage := some failureMessage }
      else run }

def recordAutomatedProcessTerminal (key : ProcessControlKey) (result : ProcessFinalResult)
    (now : ℕ) : Handler Unit := do
  let service ← Handler.service
  match service.durable.findRun (·.runsProcess key) with
  | none => pure ()
  | some runId => do
      let message := service.taskRegistry.automatedProcessFailureMessage key
      modifyDurable (·.modifyRun runId (·.ended result message now))
      persistIgnoringFailure

def boundedWaitingReason (reason : String) : String :=
  String.ofList
    ((if isBlank reason then "waiting for any capable node" else reason).toList.take 256)

def recordAutomatedProcessWaitingReason (key : ProcessControlKey) (reason : Option String) :
    Handler Unit := do
  let service ← Handler.service
  let reason := reason.map boundedWaitingReason
  match service.durable.findRun fun record =>
      record.runsProcess key && !record.run.state.isTerminal with
  | none => pure ()
  | some runId =>
    runIf (service.durable.automatedRuns[runId]?.any (·.run.waitingReason ≠ reason)) (do
      modifyDurable (·.modifyRun runId fun record =>
        { record with run := { record.run with waitingReason := reason } })
      persistIgnoringFailure)

/-! ## Offering a compilation -/

section Offers

variable [BundleInspection]

/-- The compiler profile of an environment carries the first bytes of its
digest. -/
def workflowCompilerProfileId (environmentDigest : Digest) : String :=
  let suffix := (stripStart environmentDigest.text "sha256:").getD environmentDigest.text
  "workflow-rust-" ++ String.ofList (suffix.toList.take 12)

def matchesRelease (bundle : SystemBundleCapability) : Bool :=
  let release := BundleInspection.systemManifest
  bundle.bundleId = release.bundleId ∧ bundle.bundleDigest = release.bundleDigest ∧
    bundle.environmentDigest = release.environmentDigest ∧
    bundle.sdkAbiVersion = release.sdkAbiVersion ∧ bundle.wasmTarget = release.wasmTarget

/-- The system bundle a node can compile workflows with, or why it has none. -/
def compilerBundle (capabilities : NodeCapabilities) : Except String SystemBundleCapability :=
  if capabilities.workPolicy = .executionOnly then
    .error "node_policy_disables_workflow_compilation"
  else if capabilities.os ≠ .linux ∨
      capabilities.arch ≠ BundleInspection.systemManifest.supportedArch ∨
      .container ∉ capabilities.environmentBackends ∨
      .rootlessPodman ∉ capabilities.capabilities then
    .error "no_compatible_linux_container_backend"
  else match capabilities.systemBundles.find? matchesRelease with
    | none => .error "system_bundle_version_mismatch_or_unavailable"
    | some bundle => .ok bundle

def setSystemTaskWaitReason (tenant : TenantId) (project : ProjectId) (reason : String) :
    Handler Unit := do
  let waits := fun record : AutomatedRunStageRecord => record.ofProject tenant project &&
    decide (record.run.state = .waitingForCompilerNode ∧ record.run.waitingReason ≠ some reason)
  let service ← Handler.service
  runIf (service.durable.automatedRuns.values.any waits) (do
    modifyDurable fun durable =>
      { durable with
        automatedRuns := durable.automatedRuns.map fun _ record =>
          if waits record then
            { record with run := { record.run with waitingReason := some reason } }
          else record }
    persistDurableState)

/-- The request asks for the compiler of this release and fits the bundle. -/
def WorkflowCompilationRequest.fits (request : WorkflowCompilationRequest)
    (bundle : SystemBundleCapability) : Bool :=
  let release := BundleInspection.systemManifest
  request.compilerProfile = workflowCompilerProfileId bundle.environmentDigest ∧
    request.compilerImage = release.environmentDigest ∧
    request.compilerSdk = release.sdkDigest ∧
    request.rustToolchain = release.rustToolchain ∧
    bundle.rustToolchain = request.rustToolchain ∧
    request.source.totalBytes ≤ bundle.maxSourceBytes ∧
    request.resourcePolicy.maxOutputBytes ≤ bundle.maxOutputBytes

namespace DurableState

variable (durable : DurableState)

/-- A run of the project whose attempts are used up and that no node is
compiling. -/
def exhaustedRun (scope : NodeScopeKey) : Option RunId :=
  durable.findRun fun record =>
    record.ofProject scope.tenant scope.project &&
      maxSystemAssignmentAttempts ≤ record.assignmentRetry.attempts &&
      (durable.activeAssignmentForKind (.workflowCompiler record.run.runId)).isNone &&
      record.inCompilation

/-- The run can be offered to the node, or is on offer to it. -/
def compilable (scope : NodeScopeKey) (bundle : SystemBundleCapability) (now : ℕ)
    (record : AutomatedRunStageRecord) : Bool :=
  record.ofProject scope.tenant scope.project && record.inCompilation &&
    record.compilationRequest.any (·.fits bundle) &&
    record.compiledBundle.isNone && record.compiledSummary.isNone &&
    (durable.activeAssignmentForKind (.workflowCompiler record.run.runId)).all (fun active =>
      active.node = scope.node ∧ active.state = .offered ∧ now ≤ active.leaseExpiresAt) &&
    decide (record.assignmentRetry.attempts < maxSystemAssignmentAttempts)

end DurableState

/-- The earlier of two runs, by creation and then by identifier. -/
def earlierRun (left right : RunId × AutomatedRunStageRecord) : RunId × AutomatedRunStageRecord :=
  match compare (left.2.run.createdAt, left.2.run.runId)
      (right.2.run.createdAt, right.2.run.runId) with
  | .gt => right
  | _ => left

def DurableState.selectedRun (durable : DurableState) (scope : NodeScopeKey)
    (bundle : SystemBundleCapability) (now : ℕ) : Option RunId :=
  match durable.automatedRuns.toList.filter fun (_, record) =>
      durable.compilable scope bundle now record with
  | [] => none
  | first :: rest => some (rest.foldl earlierRun first).1

/-- A run without attempts left fails. -/
def failExhaustedRun (scope : NodeScopeKey) (now : ℕ) : Handler Unit := do
  let service ← Handler.service
  match service.durable.exhaustedRun scope with
  | none => pure ()
  | some runId => do
      modifyDurable (·.terminalizeSystemAssignmentForRun runId now)
      modifyDurable (·.modifyRun runId fun record =>
        { record with
          run := { record.run with
            state := .failed
            endedAt := some now
            failureCode := some "system_assignment_node_lost"
            failureMessage := some ("workflow compilation exhausted " ++
              toString maxSystemAssignmentAttempts ++ " bounded node attempts") }
          compilationRequest := none })
      persistDurableState

/-- The retry counters after one more offer. -/
def CompilerAssignmentRetryRecord.next (retry : CompilerAssignmentRetryRecord) :
    CompilerAssignmentRetryRecord where
  attempts := min (retry.attempts + 1) 255
  nextOfferEpoch := max (saturatingAdd retry.nextOfferEpoch 1) 1

variable [Primitives]

def compileAttemptId (runId : RunId) (attempts : ℕ) : String :=
  "compile-attempt-" ++ Primitives.sha256Hex (utf8 (runId.value ++ "\x00" ++ toString attempts))

/-- The authority of the offer: the one that stands, or a new one. -/
def compilerAuthority (scope : NodeScopeKey) (runId : RunId) (now : ℕ) :
    Handler AssignmentAuthority := do
  let service ← Handler.service
  match service.durable.activeAssignmentForKind (.workflowCompiler runId) with
  | some existing => return existing.authority
  | none => do
      let record ← orFail service.durable.automatedRuns[runId]?
        (.panicked "selected compiler run exists")
      let retry := record.assignmentRetry.next
      modifyDurable (·.modifyRun runId fun record =>
        { record with assignmentRetry := retry })
      let assignment := DurableState.offeredAssignment (.workflowCompiler runId) scope
        (compileAttemptId runId retry.attempts) retry.nextOfferEpoch now
        systemAssignmentOfferSeconds runId.value
      modifyDurable (·.offerActiveAssignment assignment)
      return assignment.authority

def offerCompilation (scope : NodeScopeKey) (runId : RunId) (now : ℕ) :
    Handler (Option NodeAssignmentOffer) := do
  let authority ← compilerAuthority scope runId now
  let service ← Handler.service
  let active ← orFail service.durable.activeAssignments[authority.assignmentId]?
    (.panicked "offered compiler assignment is active")
  let record ← orFail service.durable.automatedRuns[runId]?
    (.panicked "selected compiler run exists")
  modifyDurable (·.modifyRun runId fun record =>
    { record with
      run := { record.run with state := .compilingWorkflow, waitingReason := none } })
  persistDurableState
  return record.compilationRequest.map fun request =>
    { assignmentId := authority.assignmentId
      attemptId := authority.attemptId
      scope := scope
      leaseEpoch := authority.offerEpoch
      expiresAtEpochSeconds := active.leaseExpiresAt
      work := .systemTask
        { ownerRun := request.runId
          bundleId := BundleInspection.systemManifest.bundleId
          bundleDigest := BundleInspection.systemManifest.bundleDigest
          environmentDigest := request.compilerImage
          compileWorkflow := request } }

/-- The offer does not ask whether the node is draining. -/
def pollSystemTaskOffer (scope : NodeScopeKey) : Handler (Option NodeAssignmentOffer) := do
  let service ← Handler.service
  let _ ← orFail (service.coordinator.nodeIdentity scope) unknownNode
  let descriptor ← orFail (service.nodeRegistry.descriptor scope)
    (unauthorized "node has no capability report")
  match compilerBundle descriptor.capabilities with
  | .error reason => do
      setSystemTaskWaitReason scope.tenant scope.project reason
      return none
  | .ok bundle => do
      let now ← currentEpochSeconds
      modifyDurable (·.terminalizeExpiredCompilers now)
      failExhaustedRun scope now
      let service ← Handler.service
      match service.durable.selectedRun scope bundle now with
      | none => return none
      | some runId => offerCompilation scope runId now

end Offers

end Clusterflux
