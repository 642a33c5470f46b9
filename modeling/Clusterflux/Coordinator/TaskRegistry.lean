import Clusterflux.Coordinator.Assignments

/-!
# Task registry

The in-memory collections about remote tasks: queued and pending launches,
active tasks, attempts, completion events and the checkpoints a task can be
restarted from.  Starting a process again clears the collections of that
process; assignment authority lives in the durable state and is not touched by
any operation here, except that acknowledging an offer also removes it from the
queue of its node.
-/

namespace Clusterflux

/-! ## Records -/

structure TaskAssignment where
  assignmentId : String
  attemptId : String
  offerEpoch : ℕ
  offerExpiresAtEpochSeconds : ℕ
  tenant : TenantId
  project : ProjectId
  process : ProcessId
  task : TaskInstanceId
  node : NodeId
  epoch : ℕ
  artifactPath : String
  taskSpec : TaskSpec
  wasmModuleBase64 : String

section

variable (assignment : TaskAssignment)

def TaskAssignment.processKey : ProcessControlKey :=
  ⟨assignment.tenant, assignment.project, assignment.process⟩

def TaskAssignment.restartKey : TaskRestartKey :=
  ⟨assignment.processKey, assignment.task⟩

def TaskAssignment.controlKey : TaskControlKey :=
  ⟨assignment.restartKey, assignment.node⟩

/-- The node the assignment is queued for. -/
def TaskAssignment.scope : NodeScopeKey :=
  ⟨assignment.tenant, assignment.project, assignment.node⟩

end

/-- A launch that waits for a node. -/
structure PendingTaskLaunch where
  tenant : TenantId
  project : ProjectId
  process : ProcessId
  task : TaskInstanceId
  request : PlacementRequest
  epoch : ℕ
  artifactPath : String
  taskSpec : TaskSpec
  wasmModuleBase64 : String
  offerEpoch : ℕ
  waitingReason : String

def PendingTaskLaunch.processKey (launch : PendingTaskLaunch) : ProcessControlKey :=
  ⟨launch.tenant, launch.project, launch.process⟩

def PendingTaskLaunch.restartKey (launch : PendingTaskLaunch) : TaskRestartKey :=
  ⟨launch.processKey, launch.task⟩

structure TaskRestartCheckpoint where
  checkpoint : TaskCheckpoint
  assignment : TaskAssignment

inductive TaskAttemptState where
  | queued
  | running
  | failedAwaitingAction
  | completed
  | failed
  | cancelled

def TaskAttemptState.isRunnable : TaskAttemptState → Bool
  | .queued | .running | .failedAwaitingAction => true
  | .completed | .failed | .cancelled => false

structure TaskAttemptSnapshot where
  process : ProcessId
  task : TaskInstanceId
  attemptId : String
  attemptNumber : ℕ
  taskDefinition : TaskDefinitionId
  state : TaskAttemptState
  current : Bool
  node : Option NodeId
  environmentId : Option String
  environmentDigest : Option Digest
  argumentSummary : List String
  commandState : Option String
  waitingReason : Option String
  vfsCheckpoint : String
  probeSymbol : Option String
  failurePolicy : TaskFailurePolicy
  artifactPath : Option VfsPath
  artifactDigest : Option Digest
  artifactSizeBytes : Option ℕ
  statusCode : Option ℤ
  error : Option String

inductive TaskExecutor where
  | coordinatorMain
  | node
  deriving DecidableEq

structure TaskCompletionEvent where
  tenant : TenantId
  project : ProjectId
  process : ProcessId
  node : NodeId
  executor : TaskExecutor
  taskDefinition : TaskDefinitionId
  task : TaskInstanceId
  attemptId : Option String
  placement : Option Placement
  terminalState : TaskTerminalState
  statusCode : Option ℤ
  stdoutBytes : ℕ
  stderrBytes : ℕ
  stdoutTail : String
  stderrTail : String
  stdoutTruncated : Bool
  stderrTruncated : Bool
  artifactPath : Option VfsPath
  artifactDigest : Option Digest
  artifactSizeBytes : Option ℕ
  result : Option TaskBoundaryValue

def TaskCompletionEvent.processKey (event : TaskCompletionEvent) : ProcessControlKey :=
  ⟨event.tenant, event.project, event.process⟩

def TaskCompletionEvent.restartKey (event : TaskCompletionEvent) : TaskRestartKey :=
  ⟨event.processKey, event.task⟩

structure TaskRegistry where
  taskEvents : List TaskCompletionEvent := []
  taskTerminalStates : OrderedMap TaskRestartKey TaskTerminalState := ∅
  taskAssignments : OrderedMap NodeScopeKey (List TaskAssignment) := ∅
  taskRestartCheckpoints : OrderedMap TaskRestartKey TaskRestartCheckpoint := ∅
  taskRestartCheckpointOrder : List TaskRestartKey := []
  taskAttempts : OrderedMap TaskRestartKey (List TaskAttemptSnapshot) := ∅
  restartLaunches : Finset TaskRestartKey := ∅
  pendingTaskLaunches : List PendingTaskLaunch := []
  taskPlacements : OrderedMap TaskControlKey Placement := ∅
  activeTasks : Finset TaskControlKey := ∅
  taskCancellations : Finset TaskControlKey := ∅
  taskAborts : Finset TaskControlKey := ∅

namespace TaskRegistry

variable (registry : TaskRegistry)

/-! ## Events -/

/-- Makes room among the events of the process, then among all events. -/
def appendEvent (event : TaskCompletionEvent) (perProcessCapacity totalCapacity : ℕ) :
    TaskRegistry :=
  let sameProcess := fun retained : TaskCompletionEvent =>
    decide (retained.processKey = event.processKey)
  let events := BoundedQueue.dropFirst sameProcess
    (registry.taskEvents.countP sameProcess + 1 - perProcessCapacity) registry.taskEvents
  { registry with taskEvents := BoundedQueue.push totalCapacity events event }

def eventsForProcess (key : ProcessControlKey) : List TaskCompletionEvent :=
  registry.taskEvents.filter fun event => event.processKey = key

def setTerminalState (key : TaskRestartKey) (state : TaskTerminalState) : TaskRegistry :=
  { registry with taskTerminalStates := registry.taskTerminalStates.insert key state }

def hasTerminalStateForProcess (key : ProcessControlKey) (state : TaskTerminalState) : Bool :=
  registry.taskTerminalStates.toList.any fun (entry, retained) =>
    entry.toProcessControlKey = key ∧ retained = state

/-! ## Queued assignments -/

def assignmentsForNode (scope : NodeScopeKey) : List TaskAssignment :=
  registry.taskAssignments[scope]?.getD []

def pollAssignment (scope : NodeScopeKey) : Option TaskAssignment :=
  (registry.assignmentsForNode scope).head?

/-- Keep the queued assignments with a property; a queue left empty goes. -/
def retainAssignments (keep : TaskAssignment → Bool) : TaskRegistry :=
  { registry with
    taskAssignments := registry.taskAssignments.filterMap fun _ assignments =>
      let kept := assignments.filter keep
      if kept.isEmpty then none else some kept }

def removeAssignmentForTask (key : TaskControlKey) : TaskRegistry :=
  registry.retainAssignments fun assignment => assignment.controlKey ≠ key

def removeAssignmentsForProcess (key : ProcessControlKey) : TaskRegistry :=
  registry.retainAssignments fun assignment => assignment.processKey ≠ key

/-- Remove the first queued assignment of a node. -/
def popAssignment (scope : NodeScopeKey) : TaskRegistry :=
  { registry with
    taskAssignments :=
      match registry.assignmentsForNode scope with
      | _ :: next :: rest => registry.taskAssignments.insert scope (next :: rest)
      | _ => registry.taskAssignments.erase scope }

def acknowledgeProcessAssignment (durable : DurableState) (scope : NodeScopeKey)
    (authority : AssignmentAuthority) (now assignmentSeconds : ℕ) :
    Bool × DurableState × TaskRegistry :=
  let queuedMatch : Bool := match registry.pollAssignment scope with
    | none => false
    | some front => front.assignmentId = authority.assignmentId ∧
        front.attemptId = authority.attemptId ∧ front.offerEpoch = authority.offerEpoch
  let (acknowledged, durable) :=
    durable.acknowledgeActiveAssignment scope authority now assignmentSeconds
  (acknowledged, durable,
    if queuedMatch && acknowledged then registry.popAssignment scope else registry)

/-! ## Pending launches -/

def pushPendingLaunch (launch : PendingTaskLaunch) : TaskRegistry :=
  { registry with pendingTaskLaunches := registry.pendingTaskLaunches ++ [launch] }

def removePendingForProcess (key : ProcessControlKey) : TaskRegistry :=
  { registry with
    pendingTaskLaunches := registry.pendingTaskLaunches.filter fun launch =>
      launch.processKey ≠ key }

/-! ## Restart checkpoints -/

def checkpoint (key : TaskRestartKey) : Option TaskRestartCheckpoint :=
  registry.taskRestartCheckpoints[key]?

def removeCheckpoint (key : TaskRestartKey) : TaskRegistry :=
  { registry with
    taskRestartCheckpoints := registry.taskRestartCheckpoints.erase key
    taskRestartCheckpointOrder := registry.taskRestartCheckpointOrder.filter (· ≠ key) }

/-- The checkpoints that storing one for `key` evicts: the oldest of the same
process over its capacity, then the oldest of all over the total capacity. -/
def evictedByCheckpoint (key : TaskRestartKey) (perProcessCapacity totalCapacity : ℕ) :
    List TaskRestartKey × List TaskRestartKey :=
  let sameProcess := fun candidate : TaskRestartKey =>
    decide (candidate.toProcessControlKey = key.toProcessControlKey)
  let order := registry.taskRestartCheckpointOrder.filter (· ≠ key) ++ [key]
  let excess := order.countP sameProcess - perProcessCapacity
  let kept := BoundedQueue.dropFirst sameProcess excess order
  let overflow := kept.length - totalCapacity
  (BoundedQueue.takeFirst sameProcess excess order ++ kept.take overflow, kept.drop overflow)

/-- Store a checkpoint; the second component lists the keys whose checkpoint was
replaced or evicted. -/
def storeCheckpoint (key : TaskRestartKey) (checkpoint : TaskRestartCheckpoint)
    (perProcessCapacity totalCapacity : ℕ) : TaskRegistry × List TaskRestartKey :=
  let replaced := if (registry.checkpoint key).isSome then [key] else []
  let (evicted, order) := registry.evictedByCheckpoint key perProcessCapacity totalCapacity
  ({ registry with
      taskRestartCheckpoints := evicted.foldl (·.erase ·)
        (registry.taskRestartCheckpoints.insert key checkpoint)
      taskRestartCheckpointOrder := order },
    replaced ++ evicted)

def retainProcessCheckpointsForTasks (key : ProcessControlKey)
    (retainedTasks : Finset TaskInstanceId) : TaskRegistry :=
  let keep := fun entry : TaskRestartKey =>
    entry.toProcessControlKey ≠ key ∨ entry.task ∈ retainedTasks
  { registry with
    taskRestartCheckpoints := registry.taskRestartCheckpoints.filter fun entry _ => keep entry
    taskRestartCheckpointOrder := registry.taskRestartCheckpointOrder.filter keep }

/-! ## Attempts -/

/-- Frees attempt histories, in key order, that hold no runnable attempt, until
there is room; tells whether there is. -/
def makeAttemptRoom (historyCapacity : ℕ) : Bool × TaskRegistry :=
  let removable := (registry.taskAttempts.toList.filter fun (_, attempts) =>
    attempts.all fun attempt => !attempt.state.isRunnable).map Prod.fst
  let excess := registry.taskAttempts.size + 1 - historyCapacity
  (excess ≤ removable.length,
    { registry with
      taskAttempts := (removable.take excess).foldl (·.erase ·) registry.taskAttempts
      taskTerminalStates :=
        (removable.take excess).foldl (·.erase ·) registry.taskTerminalStates })

section

variable (key : TaskRestartKey)

/-- Begin a new current attempt, if there is room for its history. -/
def beginAttempt (snapshot : TaskAttemptSnapshot)
    (historyCapacity perTaskCapacity : ℕ) : Bool × TaskRegistry :=
  let (room, registry) := if registry.taskAttempts.contains key then (true, registry)
    else registry.makeAttemptRoom historyCapacity
  if room then
    let earlier := (registry.taskAttempts[key]?.getD []).map fun attempt =>
      { attempt with current := false }
    let attempts := earlier ++ [{ snapshot with attemptNumber := earlier.length + 1 }]
    (true, { registry with
      taskTerminalStates := registry.taskTerminalStates.erase key
      taskAttempts := registry.taskAttempts.insert key
        (if attempts.length > perTaskCapacity then attempts.drop 1 else attempts) })
  else (false, registry)

def currentAttempt : Option TaskAttemptSnapshot :=
  registry.taskAttempts[key]?.bind fun attempts =>
    attempts.reverse.find? fun attempt => attempt.current

def attemptCount : ℕ :=
  (registry.taskAttempts[key]?.map List.length).getD 0

def lastAttempt : Option TaskAttemptSnapshot :=
  registry.taskAttempts[key]?.bind List.getLast?

def updateCurrentAttempt
    (update : TaskAttemptSnapshot → TaskAttemptSnapshot) : TaskRegistry :=
  { registry with
    taskAttempts := registry.taskAttempts.modify key fun attempts =>
      (DurableState.modifyLast (·.current) update attempts).getD attempts }

end

/-! ## Active tasks -/

def setPlacement (key : TaskControlKey) (placement : Placement) : TaskRegistry :=
  { registry with taskPlacements := registry.taskPlacements.insert key placement }

def activate (key : TaskControlKey) : TaskRegistry :=
  { registry with activeTasks := insert key registry.activeTasks }

/-- The task has left its node: its controls, its queued offer and its placement
go, and the placement is returned. -/
def finishTask (key : TaskControlKey) : Option Placement × TaskRegistry :=
  (registry.taskPlacements[key]?,
    { registry.removeAssignmentForTask key with
      taskCancellations := registry.taskCancellations.erase key
      taskAborts := registry.taskAborts.erase key
      activeTasks := registry.activeTasks.erase key
      taskPlacements := registry.taskPlacements.erase key })

section

variable (key : ProcessControlKey)

def activeProcessTasks : Finset TaskControlKey :=
  registry.activeTasks.filter fun task => task.toProcessControlKey = key

def requestCancelForProcess : TaskRegistry :=
  { registry with
    taskCancellations := registry.taskCancellations ∪ registry.activeProcessTasks key }

def requestAbortForProcess : TaskRegistry :=
  { registry with taskAborts := registry.taskAborts ∪ registry.activeProcessTasks key }

def clearCancellationsForProcess : TaskRegistry :=
  { registry with
    taskCancellations := registry.taskCancellations.filter fun task =>
      task.toProcessControlKey ≠ key }

end

/-! ## Processes and nodes that go away -/

def clearProcess (key : ProcessControlKey) : TaskRegistry :=
  let registry := (registry.removeAssignmentsForProcess key).removePendingForProcess key
  { registry with
    taskCancellations := registry.taskCancellations.filter (·.toProcessControlKey ≠ key)
    taskAborts := registry.taskAborts.filter (·.toProcessControlKey ≠ key)
    activeTasks := registry.activeTasks.filter (·.toProcessControlKey ≠ key)
    taskPlacements := registry.taskPlacements.filter fun task _ =>
      task.toProcessControlKey ≠ key
    taskRestartCheckpoints := registry.taskRestartCheckpoints.filter fun task _ =>
      task.toProcessControlKey ≠ key
    taskRestartCheckpointOrder := registry.taskRestartCheckpointOrder.filter
      (·.toProcessControlKey ≠ key)
    taskEvents := registry.taskEvents.filter (·.processKey ≠ key)
    taskAttempts := registry.taskAttempts.filter fun task _ => task.toProcessControlKey ≠ key
    taskTerminalStates := registry.taskTerminalStates.filter fun task _ =>
      task.toProcessControlKey ≠ key
    restartLaunches := registry.restartLaunches.filter (·.toProcessControlKey ≠ key) }

def revokeNode (scope : NodeScopeKey) : TaskRegistry :=
  { registry with
    taskAssignments := registry.taskAssignments.erase scope
    activeTasks := registry.activeTasks.filter (·.scope ≠ scope)
    taskCancellations := registry.taskCancellations.filter (·.scope ≠ scope)
    taskAborts := registry.taskAborts.filter (·.scope ≠ scope)
    taskPlacements := registry.taskPlacements.filter fun task _ => task.scope ≠ scope }

def hardDrainNode (scope : NodeScopeKey) : TaskRegistry :=
  let checkpoints := registry.taskRestartCheckpoints.filter fun _ checkpoint =>
    checkpoint.assignment.scope ≠ scope
  { registry with
    activeTasks := registry.activeTasks.filter (·.scope ≠ scope)
    taskAssignments := registry.taskAssignments.erase scope
    taskRestartCheckpoints := checkpoints
    taskRestartCheckpointOrder := registry.taskRestartCheckpointOrder.filter
      fun key => checkpoints.contains key }

/-! ## Queries -/

def hasQueuedAssignment (property : TaskAssignment → Bool) : Bool :=
  registry.taskAssignments.values.any fun assignments => assignments.any property

def hasRunnableRemoteWork (key : ProcessControlKey) : Bool :=
  (registry.activeProcessTasks key).Nonempty ||
    registry.pendingTaskLaunches.any (fun launch => launch.processKey = key) ||
    registry.hasQueuedAssignment (fun assignment => assignment.processKey = key) ||
    registry.taskAttempts.toList.any fun (task, attempts) =>
      task.toProcessControlKey = key &&
        attempts.any fun attempt => attempt.current && attempt.state.isRunnable

end TaskRegistry

end Clusterflux
