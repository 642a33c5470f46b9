import Clusterflux.Coordinator.Processes

/-!
# Debug epochs

A process is frozen and resumed as a whole: every task that was active, and the
main, take part in the epoch.  A participant that leaves while the process is
frozen makes the coordinator resume it.
-/

namespace Clusterflux

open StatefulProgram Handler

/-- The node under which the main of a process takes part. -/
def coordinatorMainNode : NodeId := ⟨"coordinator-main", by decide⟩

/-- The main of a process as a participant, while it runs. -/
def CoordinatorMainRuntime.participant (runtime : CoordinatorMainRuntime)
    (key : ProcessControlKey) : Option TaskControlKey :=
  (runtime.controls[key]?.filter fun control =>
    control.state = .running ∨ control.state = .stopping).map fun control =>
      ⟨⟨key, control.taskInstance⟩, coordinatorMainNode⟩

/-- The participants of an epoch that are still there. -/
def CoordinatorService.remainingParticipants (service : CoordinatorService)
    (key : ProcessControlKey) (expected : Finset TaskControlKey) : Finset TaskControlKey :=
  expected.filter fun participant =>
    participant ∈ service.taskRegistry.activeProcessTasks key ∨
      service.mainRuntime.participant key = some participant

def transitionDebugEpochToResume (key : ProcessControlKey) (epoch : ℕ) :
    Handler (List TaskCancellationTarget) := do
  let service ← Handler.service
  let previous ← orFail ((service.debugRegistry.runtime key).filter fun runtime =>
      runtime.epoch = epoch ∧ runtime.command = .freeze)
    (protocolError ("cannot resume debug epoch " ++ toString epoch ++ " for " ++
      key.process.value ++ ": no frozen epoch is active"))
  modifyDebug (·.clearEpochCommands key epoch)
  let expected := service.remainingParticipants key previous.expected
  modifyDebug (·.queueCommands ⟨epoch, .resume⟩
    (expected.filter fun participant => participant.node ≠ coordinatorMainNode))
  let deadline ← instantNow
  let leaseDeadline ← instantNow
  modifyDebug (·.setRuntime key
    { epoch := epoch
      command := .resume
      expected := expected
      deadline := deadline + service.debugFreezeTimeout
      leaseDeadline := leaseDeadline + service.debugEpochLeaseTimeout })
  return (orderedList expected).map fun participant =>
    ⟨participant.process, participant.task, participant.node⟩

/-- The state a main has reached in an epoch, as its debugger shows it. -/
def MainDebugView.reached (view : MainDebugView) (runtime : DebugEpochRuntime) :
    Option DebugAcknowledgementState :=
  match runtime.command with
  | .freeze => if view.frozenEpoch = some runtime.epoch then some .frozen else none
  | .resume =>
    if view.resumeRequested ∧ view.frozenEpoch ≠ some runtime.epoch then some .running
    else none

/-- The frame in which a main has stopped. -/
def CoordinatorMainControl.stackFrames (control : CoordinatorMainControl) : List String :=
  ((control.stoppedProbeSymbol.bind fun symbol => stripStart symbol "clusterflux.probe.").map
    fun function => function ++ "::wasm").toList

def syncCoordinatorMainDebugAcknowledgement (key : ProcessControlKey) (epoch : ℕ) :
    Handler Unit := do
  let service ← Handler.service
  match service.mainRuntime.controls[key]?, service.debugRegistry.runtime key with
  | some control, some runtime =>
    runIf (runtime.epoch = epoch) (do
      let view ← Handler.mainDebugView
      let participant : TaskControlKey := ⟨⟨key, control.taskInstance⟩, coordinatorMainNode⟩
      match view.reached runtime with
      | none => pure ()
      | some state =>
        runIf (participant ∈ runtime.expected)
          (modifyDebug (·.recordAcknowledgement participant
            { node := coordinatorMainNode
              taskDefinition := control.taskDefinition
              task := control.taskInstance
              epoch := epoch
              state := state
              currentSourceLocation := view.currentSourceLocation
              stackFrames := control.stackFrames
              localValues := []
              taskArgs := []
              handles := view.handles
              commandStatus := none
              recentOutput :=
                ["coordinator-hosted capless main acknowledged all-stop control"]
              message := none })))
  | _, _ => pure ()

/-- A participant has left. -/
def reconcileDepartedDebugParticipant (participant : TaskControlKey) : Handler Unit := do
  let key := participant.toProcessControlKey
  let service ← Handler.service
  match service.debugRegistry.runtime key with
  | none => pure ()
  | some runtime =>
    if participant ∉ runtime.expected then
      modifyDebug (·.clearTaskCommand participant)
    else if runtime.command = .freeze then do
      let _ ← transitionDebugEpochToResume key runtime.epoch
      syncCoordinatorMainDebugAcknowledgement key runtime.epoch
    else modifyDebug (·.removeRuntimeParticipant participant)

end Clusterflux
