import Clusterflux.Coordinator.Processes

/-!
# Coordinator mains

The main of a process runs in the coordinator, without capabilities.  What the
guest does is not modelled; its launch is, because a main that cannot be
launched ends the process.
-/

namespace Clusterflux

open StatefulProgram LengthFraming Handler

/-- The outcome of a handler whose error its caller looks at.  A panic goes on. -/
def Handler.attempt {α : Type} (action : Handler α) :
    Handler (Except CoordinatorServiceError α) := fun machine =>
  match action machine with
  | .ok value machine => .ok (.ok value) machine
  | .error (.error error) machine => .ok (.error error) machine
  | .error (.panicked message) machine => .error (.panicked message) machine

structure MainLaunched where
  process : ProcessId
  taskDefinition : TaskDefinitionId
  taskInstance : TaskInstanceId
  actor : WorkflowActor
  state : MainState

/-- A new main of a process, under the next launch number. -/
def CoordinatorMainRuntime.enter (runtime : CoordinatorMainRuntime) (key : ProcessControlKey)
    (taskDefinition : TaskDefinitionId) (taskInstance : TaskInstanceId) :
    CoordinatorMainRuntime :=
  { runtime with
    nextLaunchId := saturatingAdd runtime.nextLaunchId 1
    controls := runtime.controls.insert key
      { taskDefinition := taskDefinition
        taskInstance := taskInstance
        abort := false
        state := .running
        stoppedProbeSymbol := none
        launchId := runtime.nextLaunchId } }

/-- The revision of the run that a process was launched for. -/
def DurableState.automatedSourceRevision (durable : DurableState) (key : ProcessControlKey) :
    Option RepositoryRevision :=
  (durable.findRun (·.runsProcess key)).bind fun runId =>
    durable.automatedRuns[runId]?.bind (·.revision)

def TaskDispatch.mainExport (dispatch : TaskDispatch) : Option String :=
  if dispatch.abi = .entrypointV1 then dispatch.wasmExport else none

/-- A main gets no environment, artifact, cache or argument. -/
def TaskSpec.capless (spec : TaskSpec) : Bool :=
  spec.environmentId.isNone && spec.environment.isNone && spec.environmentDigest.isNone &&
    spec.requiredCapabilities = ∅ && spec.dependencyCache.isNone &&
    spec.requiredArtifacts.isEmpty && spec.args.isEmpty

section Launching

variable [Primitives] [BundleInspection]

/-- The runtime is asked last; a module it refuses leaves no main. -/
def submitMain (key : ProcessControlKey) (spec : TaskSpec) (wasm : Bytes) (wasmExport : String) :
    Handler Unit := do
  modifyMain (·.enter key spec.taskDefinition spec.taskInstance)
  match BundleInspection.submitMain wasm wasmExport with
  | .ok () => pure ()
  | .error message => do
      modifyMain (·.remove key)
      throw (protocolError message)

def launchMain (key : ProcessControlKey) (actor : WorkflowActor) (spec : TaskSpec)
    (wasmModuleBase64 : String) : Handler MainLaunched := do
  let service ← Handler.service
  let active ← orFail (service.coordinator.activeProcess key)
    (unauthorized "coordinator main launch requires an active virtual process")
  liftExcept (service.mainRuntime.ensureLaunchCapacity key) protocolError
  ensure (spec.tenant = key.tenant ∧ spec.project = key.project)
    (unauthorized "coordinator main TaskSpec is outside the authenticated scope")
  ensure (spec.vfsEpoch = active.coordinatorEpoch)
    (unauthorized ("coordinator main TaskSpec VFS epoch " ++ toString spec.vfsEpoch ++
      " does not match active process epoch " ++ toString active.coordinatorEpoch))
  let wasmExport ← orFail spec.dispatch.mainExport
    (protocolError "coordinator main requires an explicit EntrypointV1 Wasm export")
  ensure spec.capless
    (unauthorized ("coordinator main must be capless and may not receive environment, " ++
      "artifact, cache, or argument authority"))
  let bundleDigest ← orFail spec.bundleDigest
    (protocolError "coordinator main TaskSpec omitted bundle digest")
  let wasm ← liftExcept (Primitives.base64Decode wasmModuleBase64) fun error =>
    protocolError ("coordinator main module is not valid base64: " ++ error)
  ensure (Digest.sha256 wasm = bundleDigest)
    (unauthorized ("coordinator main module digest mismatch: expected " ++ bundleDigest.text ++
      ", actual " ++ (Digest.sha256 wasm).text))
  liftExcept (BundleInspection.validateInvocation spec.taskDefinition spec.taskInstance [])
    protocolError
  liftExcept (BundleInspection.readsDescriptors wasm) protocolError
  let revision := service.durable.automatedSourceRevision key
  ensure (spec.sourceRevision.isNone ∨ revision.isNone ∨ spec.sourceRevision = revision)
    (unauthorized "coordinator main source revision does not match the automated run")
  submitMain key spec wasm wasmExport
  return ⟨key.process, spec.taskDefinition, spec.taskInstance, actor, .running⟩

/-- A process whose main cannot be launched has failed. -/
def failMainLaunch (key : ProcessControlKey) : Handler Unit := do
  modifyMain (·.interruptProcess key)
  let now ← livenessNowEpochSeconds
  recordProcessTerminal key .failed now
  let _ ← Handler.attempt (abortActiveProcess key)
  return ()

def handleLaunchCoordinatorMain (tenant project : String) (fields : WorkflowActorFields)
    (spec : TaskSpec) (wasmModuleBase64 : String) : Handler MainLaunched := do
  let tenant ← newId .tenant tenant
  let project ← newId .project project
  let actor ← workflowActor tenant project fields "launch_task" spec.process
    (some spec.taskInstance)
  let key := ProcessControlKey.mk tenant project spec.process
  let service ← Handler.service
  let result ← Handler.attempt (launchMain key actor spec wasmModuleBase64)
  match result with
  | .ok launched => return launched
  | .error error => do
      runIf (¬ service.mainRuntime.controls.contains key) (failMainLaunch key)
      throw (.error error)

/-- External callers launch mains only. -/
def handleLaunchTask (tenant project : String) (fields : WorkflowActorFields) (spec : TaskSpec)
    (wasmModuleBase64 : String) : Handler MainLaunched := do
  liftExcept (BundleInspection.validateBoundaryAuthority spec) protocolError
  ensure (spec.dispatch.abi = .entrypointV1)
    (unauthorized ("external callers may launch only EntrypointV1; TaskV1 requires an " ++
      "authenticated live parent runtime or validated restart"))
  handleLaunchCoordinatorMain tenant project fields spec wasmModuleBase64

end Launching

end Clusterflux
