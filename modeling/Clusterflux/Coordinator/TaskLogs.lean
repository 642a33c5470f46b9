import Clusterflux.Coordinator.Processes
import Clusterflux.Protocol.Encoding

/-!
# Logs that tasks report

A task reports its output in chunks while it runs, and once more when it ends.
The bytes of a stream that were accounted for are never counted again, and what
could not be kept leaves a note in the log.
-/

namespace Clusterflux

open StatefulProgram Handler

def maxTaskLogTailBytes : ℕ := 256 * 1024

def recentLogOffsetKey (task : TaskRestartKey) (stream : TaskLogStream) : LogStreamKey :=
  ⟨task, stream.name⟩

def validateTaskLogTail (kind value : String) : Handler Unit :=
  ensure (value.utf8ByteSize ≤ maxTaskLogTailBytes)
    (.error (.invalidTaskLogTail (kind ++ " is " ++ toString value.utf8ByteSize ++
      " bytes; max is " ++ toString maxTaskLogTailBytes)))

/-- The text from the first character that starts at or after an offset in bytes. -/
def dropBytes : ℕ → List Char → List Char
  | 0, text => text
  | _ + 1, [] => []
  | offset + 1, char :: rest => dropBytes (offset + 1 - char.utf8Size) rest

/-- The end of a text that is too long, and whether it was. -/
def boundedLogTail (value : String) : String × Bool :=
  if value.utf8ByteSize ≤ maxTaskLogTailBytes then (value, false)
  else (String.ofList (dropBytes (value.utf8ByteSize - maxTaskLogTailBytes) value.toList), true)

/-! ## Steps -/

def quotaTruncationNote : String := "[log output truncated at project log quota]"

def sourceTruncationNote : String := "[some output was unavailable or truncated at source]"

section Steps

variable (task : TaskRestartKey) (stream : TaskLogStream) (now : ℕ)

/-- The answer is the sequence number of the entry. -/
def recordRecentLog (text : String) (truncated : Bool) : Handler ℕ := do
  let service ← Handler.service
  modifyLogs (·.append task stream text truncated now)
  return service.recentLogStore.nextRecentLogSequence

/-- Whether the bytes were charged. -/
def chargeLogBytes (bytes : ℕ) : Handler Bool := do
  let service ← Handler.service
  let charge := service.quota.charge task.tenant task.project .logBytes bytes now
  modifyQuota fun _ => charge.2
  return charge.1.isOk

/-- The note is left once. -/
def markLogQuotaTruncated : Handler (Option ℕ) := do
  let service ← Handler.service
  let (marked, store) :=
    service.recentLogStore.markQuotaTruncated (recentLogOffsetKey task stream)
  modifyLogs fun _ => store
  if marked then some <$> recordRecentLog task stream now quotaTruncationNote true
  else return none

/-- Whether the stream was not marked before. -/
def markSourceTruncated : Handler Bool := do
  let service ← Handler.service
  let (marked, store) :=
    service.recentLogStore.markSourceTruncated (recentLogOffsetKey task stream)
  modifyLogs fun _ => store
  return marked

/-- Bytes that were not reported while the task ran are taken from the final tail, as
far as it reaches; the answer tells whether a note says that some are missing. -/
def recordFinalTail (totalSourceBytes accounted : ℕ) (finalTail : String)
    (sourceTruncated : Bool) : Handler Bool := do
  let missing := totalSourceBytes - accounted
  if finalTail.isEmpty then do
    let _ ← recordRecentLog task stream now
      ("[log output unavailable: " ++ toString missing ++ " source bytes]") true
    return true
  else if finalTail.utf8ByteSize ≤ totalSourceBytes then do
    let tailSourceStart := totalSourceBytes - finalTail.utf8ByteSize
    runIf (accounted < tailSourceStart) (do
      let _ ← recordRecentLog task stream now ("[log output lost before final tail: " ++
        toString (tailSourceStart - accounted) ++ " source bytes]") true
      pure ())
    let lost := decide (accounted < tailSourceStart)
    let suffix := String.ofList
      (dropBytes (max accounted tailSourceStart - tailSourceStart) finalTail.toList)
    if suffix.isEmpty then return lost
    else do
      let _ ← recordRecentLog task stream now suffix (sourceTruncated || lost)
      return lost || sourceTruncated
  else if accounted = 0 then do
    let _ ← recordRecentLog task stream now finalTail sourceTruncated
    return sourceTruncated
  else do
    let _ ← recordRecentLog task stream now ("[" ++ toString missing ++
      " additional source bytes could not be merged without duplicating redacted output]") true
    return true

def reconcileFinalLogStream (totalSourceBytes : ℕ) (finalTail : String)
    (sourceTruncated : Bool) : Handler Unit := do
  let service ← Handler.service
  let key := recentLogOffsetKey task stream
  let accounted := service.recentLogStore.accountedBytes key
  let visible ← if totalSourceBytes > accounted then do
      let visible ← recordFinalTail task stream now totalSourceBytes accounted finalTail
        sourceTruncated
      modifyLogs (·.setAccountedBytes key totalSourceBytes)
      pure visible
    else pure false
  let marked ← if sourceTruncated || visible then markSourceTruncated task stream else pure false
  runIf (marked && !visible) (do
    let _ ← recordRecentLog task stream now sourceTruncationNote true
    pure ())

structure FinalLogStreamAcceptance where
  retained : Bool
  totalSourceBytes : ℕ
  sourceTruncated : Bool

/-- The bytes accounted for never go back. -/
def acceptFinalLogStream (totalSourceBytes : ℕ) (finalTail : String) (sourceTruncated : Bool) :
    Handler FinalLogStreamAcceptance := do
  let service ← Handler.service
  let key := recentLogOffsetKey task stream
  let accounted := service.recentLogStore.accountedBytes key
  let sourceTruncated := sourceTruncated || decide (totalSourceBytes < accounted)
  let totalSourceBytes := max totalSourceBytes accounted
  if service.recentLogStore.quotaTruncated key then do
    modifyLogs (·.setAccountedBytes key totalSourceBytes)
    return ⟨false, totalSourceBytes, sourceTruncated⟩
  else do
    let charged ← chargeLogBytes task now (totalSourceBytes - accounted)
    if charged then do
      reconcileFinalLogStream task stream now totalSourceBytes finalTail sourceTruncated
      return ⟨true, totalSourceBytes, sourceTruncated⟩
    else do
      modifyLogs (·.setAccountedBytes key totalSourceBytes)
      let _ ← markLogQuotaTruncated task stream now
      return ⟨false, totalSourceBytes, sourceTruncated⟩

end Steps

/-! ## Requests -/

def Handler.newTaskKey (fields : TaskFields) : Handler TaskControlKey := do
  let tenant ← newId .tenant fields.tenant
  let project ← newId .project fields.project
  let process ← newId .process fields.process
  let node ← newId .node fields.node
  let task ← newId .taskInstance fields.task
  return ⟨⟨⟨tenant, project, process⟩, task⟩, node⟩

def authorizeTaskNode (key : TaskControlKey) : Handler Unit := do
  let service ← Handler.service
  liftExcept (service.authorizeNodeForProcessOrTermination key.node key.toProcessControlKey)
    coordinatorFailure

end Clusterflux
