import Clusterflux.Coordinator.AutomatedRuns
import Clusterflux.Coordinator.WorkflowActors

/-!
# Processes

A project has at most one active process.  Starting it again replaces the
incarnation; cancelling asks its tasks to stop; aborting ends it at once.
-/

namespace Clusterflux

open StatefulProgram Handler

/-! ## Responses -/

structure ProcessStarted where
  process : ProcessId
  launchAttempt : Option String
  epoch : ℕ
  actor : WorkflowActor
  chargedSpawns : ℕ

structure TaskCancellationTarget where
  process : ProcessId
  task : TaskInstanceId
  node : NodeId

/-- The tasks a request stops and the nodes they run on. -/
structure ProcessStopped where
  process : ProcessId
  tasks : List TaskCancellationTarget
  affectedNodes : List NodeId

def ProcessStopped.ofTasks (process : ProcessId) (tasks : Finset TaskControlKey) :
    ProcessStopped where
  process := process
  tasks := (orderedList tasks).map fun task => ⟨process, task.task, task.node⟩
  affectedNodes := orderedList (tasks.image (·.node))

/-! ## Common steps -/

/-- A process beside the active ones must fit the limit of its tenant. -/
def ensureProcessAdmission (tenant : TenantId) : Handler Unit := do
  let service ← Handler.service
  let current := service.coordinator.activeProcessCountForTenant tenant
  let maximum := (service.quota.effectiveAdmissionLimits
    service.durable.tenantQuotaOverrides[tenant]?).maxActiveProcesses
  ensure (current < maximum) (.error (.activeProcessQuota current maximum))

/-- The answer is what the project has used of its spawns. -/
def chargeWorkflowSpawn (tenant : TenantId) (project : ProjectId) (now : ℕ) : Handler ℕ := do
  let service ← Handler.service
  let charge := service.quota.charge tenant project .spawn 1 now
  modifyQuota fun _ => charge.2
  liftExcept charge.1 fun error => .error (.resource error)
  return charge.2.used tenant project .spawn now

def newLaunchAttempt : Option String → Handler (Option LaunchAttemptId)
  | none => pure none
  | some launchAttempt => some <$> newId .launchAttempt launchAttempt

section

variable (key : ProcessControlKey)

def recordProcessStarted (now : ℕ) : Handler Unit := do
  modifyLogs (·.clearProcess key)
  let service ← Handler.service
  let (evicted, registry) := service.processRegistry.startSummary key now
  modifyProcesses fun _ => registry
  modifyLogs fun store => evicted.foldl (·.clearProcess ·) store

def recordProcessTerminal (result : ProcessFinalResult) (now : ℕ) :
    Handler Unit := do
  let service ← Handler.service
  let connectedNodes := ((service.coordinator.activeProcess key).map (·.connectedNodes)).getD ∅
  modifyProcesses (·.finishSummary key result connectedNodes now)
  modifyArtifacts (·.releaseProcessHolds key)
  recordAutomatedProcessTerminal key result now

def ProcessRegistry.clearCancel (registry : ProcessRegistry) (key : ProcessControlKey) :
    ProcessRegistry :=
  { registry with processCancellations := registry.processCancellations.erase key }

def abortActiveProcess : Handler Unit := do
  let service ← Handler.service
  let coordinator ← liftExcept (service.coordinator.abortProcess key) coordinatorFailure
  modifyCoordinator fun _ => coordinator

variable (launchAttempt : Option LaunchAttemptId)

def launchRollbackDenied (process : ProcessId) : Failure :=
  unauthorized ("launch rollback denied: attempt " ++
    ((launchAttempt.map (·.value)).getD "") ++ " does not own process " ++ process.value)

/-- The attempt that launched a process may take it back, and no other. -/
def abortProcessForLaunchAttempt : Handler Unit := do
  let service ← Handler.service
  let active ← orFail (service.coordinator.activeProcess key)
    (unauthorized "launch rollback requires an active virtual process")
  ensure (active.launchAttempt = launchAttempt) (launchRollbackDenied launchAttempt key.process)
  abortActiveProcess key

def abortProcessOfAttempt : Handler Unit :=
  if launchAttempt.isSome then abortProcessForLaunchAttempt key launchAttempt
  else abortActiveProcess key

end

/-! ## Starting -/

section Starting

variable [Primitives]

/-- Starting the active process of a project again needs the restart flag. -/
def handleStartProcess (tenant project : String) (fields : WorkflowActorFields)
    (process : String) (launchAttempt : Option String) (restart : Bool) :
    Handler ProcessStarted := do
  let key ← newProcessKey tenant project process
  ensureTenantActive key.tenant
  let actor ← workflowActor key.tenant key.project fields "start_process" key.process none
  let service ← Handler.service
  let existing := service.coordinator.activeProcessForProject key.tenant key.project
  ensure (existing.all fun active => active.id = key.process ∧ restart)
    (unauthorized ("project already has active virtual process " ++
      (existing.map (·.id.value)).getD "" ++ "; attach to or restart it, request " ++
      "cooperative cancellation, abort it, or use another Coordinator Project"))
  runIf existing.isNone (ensureProcessAdmission key.tenant)
  let now ← currentEpochSeconds
  let chargedSpawns ← chargeWorkflowSpawn key.tenant key.project now
  runIf existing.isSome (modifyMain fun runtime =>
    (runtime.interruptProcess key).remove key)
  modifyProcesses (·.clearControl key)
  modifyDebug (·.clearProcess key)
  modifyTasks (·.clearProcess key)
  modifyDebug (·.removeAuditForProcess key)
  let launchAttempt ← newLaunchAttempt launchAttempt
  modifyCoordinator (·.startProcessForLaunchAttempt key launchAttempt)
  recordProcessStarted key now
  let service ← Handler.service
  return { process := key.process
           launchAttempt := launchAttempt.map (·.value)
           epoch := service.coordinator.coordinatorEpoch
           actor := actor
           chargedSpawns := chargedSpawns }

end Starting

/-! ## Stopping -/

/-- Cancellation of a process without running tasks and without a main ends it. -/
def handleCancelProcess (tenant project process : String) : Handler ProcessStopped := do
  let key ← newProcessKey tenant project process
  let service ← Handler.service
  let _ ← orFail (service.coordinator.activeProcess key)
    (unauthorized "process cancellation requires an active virtual process")
  modifyProcesses (·.requestCancel key)
  let now ← currentEpochSeconds
  modifyService (·.cancelArtifactInterchanges key now)
  modifyMain (·.interruptProcess key)
  modifyDebug (·.clearProcess key)
  modifyTasks (·.removePendingForProcess key)
  let service ← Handler.service
  let cancelled := service.taskRegistry.activeProcessTasks key
  modifyTasks (·.requestCancelForProcess key)
  runIf (cancelled = ∅ ∧ ¬ service.mainRuntime.controls.contains key) (do
    recordProcessTerminal key .cancelled now
    abortActiveProcess key)
  return ProcessStopped.ofTasks key.process cancelled

/-- The restart checkpoints of tasks that still have to notice the abort stay. -/
def handleAbortProcess (tenant project process : String) (launchAttempt : Option String) :
    Handler ProcessStopped := do
  let key ← newProcessKey tenant project process
  let service ← Handler.service
  let active ← orFail (service.coordinator.activeProcess key)
    (unauthorized "process abort requires an active virtual process")
  let launchAttempt ← newLaunchAttempt launchAttempt
  ensure (launchAttempt.isNone ∨ active.launchAttempt = launchAttempt)
    (launchRollbackDenied launchAttempt key.process)
  let now ← currentEpochSeconds
  modifyService (·.cancelArtifactInterchanges key now)
  modifyProcesses fun registry => (registry.clearCancel key).requestAbort key
  modifyTasks (·.clearCancellationsForProcess key)
  modifyMain fun runtime => (runtime.interruptProcess key).remove key
  modifyDebug (·.clearProcess key)
  modifyTasks fun registry =>
    (registry.removePendingForProcess key).removeAssignmentsForProcess key
  let service ← Handler.service
  let aborted := service.taskRegistry.activeProcessTasks key
  modifyTasks (·.requestAbortForProcess key)
  recordProcessTerminal key .cancelled now
  abortProcessOfAttempt key launchAttempt
  modifyTasks (·.retainProcessCheckpointsForTasks key (aborted.image (·.task)))
  runIf (aborted = ∅) (modifyProcesses (·.clearAbort key))
  return ProcessStopped.ofTasks key.process aborted

end Clusterflux
