import Clusterflux.Coordinator.TaskLaunches

/-!
# Assignments of nodes

Nodes poll for work, say which assignment they are at, and acknowledge what they
were offered.  An acknowledgement is tried as one of a task of a process first,
for whatever the assignment is.
-/

namespace Clusterflux

open StatefulProgram Handler

/-- The lease of a task of a process, in seconds. -/
def processAssignmentLeaseSeconds : ℕ := 180

/-- A compilation has its wall-clock limit and half a minute, and at least the
lease of other system tasks. -/
def AutomatedRunStageRecord.leaseSeconds (record : AutomatedRunStageRecord) : ℕ :=
  max ((record.compilationRequest.map fun request =>
      saturatingAdd request.resourcePolicy.wallClockSeconds 30).getD systemAssignmentLeaseSeconds)
    systemAssignmentLeaseSeconds

/-! ## Acknowledgements -/

/-- The run that a compiler assignment belongs to. -/
def DurableState.compilerRun (durable : DurableState) (assignmentId : String) :
    Option AutomatedRunStageRecord :=
  match durable.activeAssignments[assignmentId]?.map ActiveAssignmentRecord.kind with
  | some (.workflowCompiler runId) => durable.automatedRuns[runId]?
  | _ => none

def acknowledgeSystemTaskOffer (scope : NodeScopeKey) (assignmentId : String) (leaseEpoch : ℕ)
    (authority : AssignmentAuthority) : Handler Bool := do
  let now ← currentEpochSeconds
  let service ← Handler.service
  match service.durable.compilerRun assignmentId with
  | none => return false
  | some record =>
    if !record.ofProject scope.tenant scope.project then return false
    else if authority.assignmentId ≠ assignmentId ∨ authority.offerEpoch ≠ leaseEpoch then
      return false
    else do
      let (acknowledged, durable) :=
        service.durable.acknowledgeActiveAssignment scope authority now record.leaseSeconds
      modifyDurable fun _ => durable
      runIf acknowledged persistDurableState
      return acknowledged

/-- The attempt runs now, if it is the one that was acknowledged. -/
def TaskAttemptSnapshot.started (attempt : TaskAttemptSnapshot) (attemptId : String) :
    TaskAttemptSnapshot :=
  if attempt.attemptId = attemptId then
    { attempt with state := .running, commandState := some "running" }
  else attempt

/-- The authority of an acknowledgement: the one that was signed, or that of the
assignment it names. -/
def DurableState.acknowledgedAuthority (durable : DurableState) (assignmentId : String)
    (leaseEpoch : ℕ) (signedAuthority : Option AssignmentAuthority) :
    Option AssignmentAuthority :=
  (signedAuthority.filter fun authority =>
    authority.assignmentId = assignmentId ∧ authority.offerEpoch = leaseEpoch).or
    ((durable.activeAssignments[assignmentId]?.filter fun active =>
      active.offerEpoch = leaseEpoch).map (·.authority))

structure NodeAssignmentAcknowledged where
  assignmentId : String
  leaseEpoch : ℕ

/-- What the acknowledgement of a task does beside the durable state. -/
def startAcknowledgedTask (scope : NodeScopeKey) (assignmentId attemptId : String) :
    Handler Unit := do
  let service ← Handler.service
  match service.durable.activeAssignments[assignmentId]?.map ActiveAssignmentRecord.kind with
  | some (.processTask process task) =>
    modifyTasks (·.updateCurrentAttempt ⟨⟨scope.tenant, scope.project, process⟩, task⟩
      (·.started attemptId))
  | _ => pure ()

def handleAcknowledgeNodeAssignment (request : NodeRequest.AcknowledgeNodeAssignment)
    (signedAuthority : Option AssignmentAuthority) : Handler NodeAssignmentAcknowledged := do
  let scope ← newNodeScope request.toNodeFields
  let service ← Handler.service
  let _ ← orFail (service.coordinator.nodeIdentity scope) unknownNode
  let authority ← orFail (service.durable.acknowledgedAuthority request.assignmentId
    request.leaseEpoch signedAuthority)
    (unauthorized "node assignment acknowledgement omitted or mismatched its attempt authority")
  let now ← currentEpochSeconds
  let (acknowledged, durable, registry) := service.taskRegistry.acknowledgeProcessAssignment
    service.durable scope authority now processAssignmentLeaseSeconds
  modifyDurable fun _ => durable
  modifyTasks fun _ => registry
  if acknowledged then do
    startAcknowledgedTask scope request.assignmentId authority.attemptId
    persistDurableState
    return ⟨request.assignmentId, request.leaseEpoch⟩
  else do
    let system ← acknowledgeSystemTaskOffer scope request.assignmentId request.leaseEpoch authority
    ensure system (.error .staleNodeAssignmentAcknowledgement)
    return ⟨request.assignmentId, request.leaseEpoch⟩

end Clusterflux
