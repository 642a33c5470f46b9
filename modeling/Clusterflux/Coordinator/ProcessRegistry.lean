import Clusterflux.Coordinator.Durable
import Clusterflux.Foundation.Queues

/-!
# Process registry

Cancellation and abort requests of processes, and a bounded history of process
summaries.
-/

namespace Clusterflux

inductive ProcessFinalResult where
  | completed
  | failed
  | cancelled
  deriving DecidableEq

structure StoredProcessSummary where
  startedAtEpochSeconds : ℕ
  endedAtEpochSeconds : Option ℕ := none
  finalResult : Option ProcessFinalResult := none
  connectedNodes : Finset NodeId := ∅
  mainTaskDefinition : Option TaskDefinitionId := none
  mainTaskInstance : Option TaskInstanceId := none
  mainTerminalState : Option TaskTerminalState := none
  order : ℕ

structure ProcessRegistry where
  scopeHistory : List ProcessControlKey := []
  summaries : OrderedMap ProcessControlKey StoredProcessSummary := ∅
  summaryOrder : List ProcessControlKey := []
  nextSummaryOrder : ℕ := 1
  processCancellations : Finset ProcessControlKey := ∅
  processAborts : Finset ProcessControlKey := ∅

def maxRecentProcessSummariesPerProject : ℕ := 32

def maxRecentProcessSummariesTotal : ℕ := 8192

namespace ProcessRegistry

variable (registry : ProcessRegistry) (key : ProcessControlKey)

def isCancelled : Bool := key ∈ registry.processCancellations

def isAborted : Bool := key ∈ registry.processAborts

def isStopping : Bool := registry.isCancelled key || registry.isAborted key

def requestCancel : ProcessRegistry :=
  { registry with processCancellations := insert key registry.processCancellations }

def requestAbort : ProcessRegistry :=
  { registry with processAborts := insert key registry.processAborts }

def clearAbort : ProcessRegistry :=
  { registry with processAborts := registry.processAborts.erase key }

def clearControl : ProcessRegistry :=
  { registry with
    processCancellations := registry.processCancellations.erase key
    processAborts := registry.processAborts.erase key }

/-- Remember that a process of this key was started. -/
def recordScope (limit : ℕ) : ProcessRegistry :=
  { registry with
    scopeHistory := BoundedQueue.push limit (registry.scopeHistory.filter (· ≠ key)) key }

/-! ## Summaries -/

def removeSummary : ProcessRegistry :=
  { registry with
    summaries := registry.summaries.erase key
    summaryOrder := registry.summaryOrder.filter (· ≠ key) }

/-- Remove the oldest finished summaries with a property, at most `excess` many. -/
def evictFinished (property : ProcessControlKey → Bool) (excess : ℕ) :
    List ProcessControlKey × ProcessRegistry :=
  let finished := fun candidate => property candidate &&
    registry.summaries[candidate]?.any (·.finalResult.isSome)
  let evicted := (registry.summaryOrder.filter finished).eraseDups.take excess
  (evicted, evicted.foldl (·.removeSummary ·) registry)

/-- Open a summary; the first component lists the summaries that had to go. -/
def startSummary (nowEpochSeconds : ℕ) : List ProcessControlKey × ProcessRegistry :=
  let registry := { registry with
    summaryOrder := registry.summaryOrder.filter (· ≠ key) }
  let sameProject := fun candidate : ProcessControlKey =>
    decide (candidate.tenant = key.tenant ∧ candidate.project = key.project)
  let (ofProject, registry) := registry.evictFinished sameProject
    (registry.summaries.keys.countP sameProject + 1 - maxRecentProcessSummariesPerProject)
  let (ofOthers, registry) := registry.evictFinished (fun _ => true)
    (registry.summaries.size + 1 - maxRecentProcessSummariesTotal)
  (ofProject ++ ofOthers,
    { registry with
      summaries := registry.summaries.insert key
        { startedAtEpochSeconds := nowEpochSeconds, order := registry.nextSummaryOrder }
      summaryOrder := registry.summaryOrder ++ [key]
      nextSummaryOrder := saturatingAdd registry.nextSummaryOrder 1 })

def finishSummary (finalResult : ProcessFinalResult) (connectedNodes : Finset NodeId)
    (nowEpochSeconds : ℕ) : ProcessRegistry :=
  let registry := if registry.summaries.contains key then registry
    else { registry with
      summaries := registry.summaries.insert key
        { startedAtEpochSeconds := nowEpochSeconds, order := registry.nextSummaryOrder }
      summaryOrder := registry.summaryOrder ++ [key]
      nextSummaryOrder := saturatingAdd registry.nextSummaryOrder 1 }
  { registry with
    summaries := registry.summaries.modify key fun summary =>
      { summary with
        endedAtEpochSeconds := some nowEpochSeconds
        finalResult := some finalResult
        connectedNodes := connectedNodes } }

def recordMainTerminal (taskDefinition : TaskDefinitionId) (taskInstance : TaskInstanceId)
    (terminalState : TaskTerminalState) : ProcessRegistry :=
  { registry with
    summaries := registry.summaries.modify key fun summary =>
      { summary with
        mainTaskDefinition := some taskDefinition
        mainTaskInstance := some taskInstance
        mainTerminalState := some terminalState } }

end ProcessRegistry

end Clusterflux
