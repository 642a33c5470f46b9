import Clusterflux.Coordinator.Durable
import Clusterflux.Foundation.Queues
import Clusterflux.Protocol.NodeRequests

/-!
# Debug registry

Debug epochs of processes, the participants that are expected to acknowledge
them, breakpoint plans, commands waiting for nodes, and a bounded audit trail.
-/

namespace Clusterflux

inductive DebugCommand where
  | freeze
  | resume
  deriving DecidableEq

structure DebugPendingCommand where
  epoch : ℕ
  command : DebugCommand

structure DebugParticipantAcknowledgement where
  node : NodeId
  taskDefinition : TaskDefinitionId
  task : TaskInstanceId
  epoch : ℕ
  state : DebugAcknowledgementState
  currentSourceLocation : Option SourceLocation
  stackFrames : List String
  localValues : List (String × String)
  taskArgs : List (String × String)
  handles : List (String × String)
  commandStatus : Option String
  recentOutput : List String
  message : Option String

structure DebugEpochRuntime where
  epoch : ℕ
  command : DebugCommand
  expected : Finset TaskControlKey
  acknowledgements : OrderedMap TaskControlKey DebugParticipantAcknowledgement := ∅
  deadline : ℕ
  leaseDeadline : ℕ

structure DebugBreakpointPlan where
  actor : UserId
  revision : ℕ

structure DebugAuditEvent where
  tenant : TenantId
  project : ProjectId
  process : ProcessId

def DebugAuditEvent.processKey (event : DebugAuditEvent) : ProcessControlKey :=
  ⟨event.tenant, event.project, event.process⟩

structure DebugRegistry where
  auditEvents : List DebugAuditEvent := []
  epochs : OrderedMap ProcessControlKey ℕ := ∅
  epochRuntime : OrderedMap ProcessControlKey DebugEpochRuntime := ∅
  breakpoints : OrderedMap ProcessControlKey DebugBreakpointPlan := ∅
  commands : OrderedMap TaskControlKey DebugPendingCommand := ∅

namespace DebugRegistry

variable (registry : DebugRegistry)

def queueCommand (command : DebugPendingCommand) (key : TaskControlKey) : DebugRegistry :=
  { registry with commands := registry.commands.insert key command }

/-- Queue a command for each of some tasks. -/
def queueCommands (command : DebugPendingCommand) (keys : Finset TaskControlKey) : DebugRegistry :=
  (orderedList keys).foldl (·.queueCommand command ·) registry

def clearTaskCommand (key : TaskControlKey) : DebugRegistry :=
  { registry with commands := registry.commands.erase key }

variable (key : ProcessControlKey)

def clearEpochCommands (epoch : ℕ) : DebugRegistry :=
  { registry with
    commands := registry.commands.filter fun task pending =>
      task.toProcessControlKey ≠ key ∨ pending.epoch ≠ epoch }

def runtime : Option DebugEpochRuntime := registry.epochRuntime[key]?

def setRuntime (runtime : DebugEpochRuntime) : DebugRegistry :=
  { registry with epochRuntime := registry.epochRuntime.insert key runtime }

def removeRuntimeParticipant (participant : TaskControlKey) : DebugRegistry :=
  { registry with
    epochRuntime := registry.epochRuntime.modify participant.toProcessControlKey
      fun runtime => { runtime with
        expected := runtime.expected.erase participant
        acknowledgements := runtime.acknowledgements.erase participant }
    commands := registry.commands.erase participant }

def recordAcknowledgement (participant : TaskControlKey)
    (acknowledgement : DebugParticipantAcknowledgement) : DebugRegistry :=
  { registry with
    epochRuntime := registry.epochRuntime.modify participant.toProcessControlKey
      fun runtime => { runtime with
        acknowledgements := runtime.acknowledgements.insert participant acknowledgement } }

def clearProcess : DebugRegistry :=
  { registry with
    epochs := registry.epochs.erase key
    epochRuntime := registry.epochRuntime.erase key
    breakpoints := registry.breakpoints.erase key
    commands := registry.commands.filter fun task _ => task.toProcessControlKey ≠ key }

def removeAuditForProcess : DebugRegistry :=
  { registry with
    auditEvents := registry.auditEvents.filter fun event => event.processKey ≠ key }

end DebugRegistry

end Clusterflux
