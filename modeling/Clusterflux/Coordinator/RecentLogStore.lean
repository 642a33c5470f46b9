import Clusterflux.Coordinator.Durable
import Clusterflux.Foundation.Queues
import Clusterflux.Protocol.NodeRequests

/-!
# Recent logs

The last log entries of each project, with the bytes already accounted for per
stream so that a chunk is not accepted twice.
-/

namespace Clusterflux

/-- A log stream of a task. -/
structure LogStreamKey extends TaskRestartKey where
  stream : String
  deriving DecidableEq

def LogStreamKey.toTuple (key : LogStreamKey) : TaskRestartKey × String :=
  (key.toTaskRestartKey, key.stream)

instance : Ord LogStreamKey := ⟨compareOn LogStreamKey.toTuple⟩

instance : Std.TransOrd LogStreamKey :=
  inferInstanceAs (Std.TransCmp (compareOn LogStreamKey.toTuple))

structure RecentLogEntry where
  sequence : ℕ
  process : ProcessId
  task : TaskInstanceId
  stream : TaskLogStream
  text : String
  serverTimestampEpochSeconds : ℕ
  truncated : Bool
  deriving DecidableEq

structure RecentLogStore where
  recentLogs : OrderedMap (TenantId × ProjectId) (List RecentLogEntry) := ∅
  recentLogDroppedThrough : OrderedMap ProcessControlKey ℕ := ∅
  recentLogAccountedBytes : OrderedMap LogStreamKey ℕ := ∅
  recentLogTruncatedStreams : Finset LogStreamKey := ∅
  recentLogQuotaTruncatedStreams : Finset LogStreamKey := ∅
  nextRecentLogSequence : ℕ := 1

def maxRecentLogEntriesPerProcess : ℕ := 256

def maxRecentLogEntriesPerProject : ℕ := 1024

def maxRecentLogBytesPerProject : ℕ := 512 * 1024

def maxRecentLogChunkBytes : ℕ := 16 * 1024

/-- The longest start of a text that is at most `limit` bytes long. -/
def truncateAtBoundary (limit : ℕ) : List Char → List Char
  | [] => []
  | char :: rest =>
    if char.utf8Size ≤ limit then char :: truncateAtBoundary (limit - char.utf8Size) rest
    else []

/-- The oldest entries that must go until the rest has room for a new one. -/
def entriesOverBudget (newBytes : ℕ) : List RecentLogEntry → List RecentLogEntry
  | [] => []
  | entry :: entries =>
    let bytes := ((entry :: entries).map (·.text.utf8ByteSize)).sum
    if (entry :: entries).length ≥ maxRecentLogEntriesPerProject ∨
        bytes + newBytes > maxRecentLogBytesPerProject then
      entry :: entriesOverBudget newBytes entries
    else []

namespace RecentLogStore

variable (store : RecentLogStore)

section

variable (key : LogStreamKey)

def accountedBytes : ℕ := store.recentLogAccountedBytes[key]?.getD 0

def setAccountedBytes (bytes : ℕ) : RecentLogStore :=
  { store with recentLogAccountedBytes := store.recentLogAccountedBytes.insert key bytes }

def quotaTruncated : Bool := key ∈ store.recentLogQuotaTruncatedStreams

/-- Tells whether the stream was not marked before. -/
def markSourceTruncated : Bool × RecentLogStore :=
  (key ∉ store.recentLogTruncatedStreams,
    { store with recentLogTruncatedStreams := insert key store.recentLogTruncatedStreams })

def markQuotaTruncated : Bool × RecentLogStore :=
  if key ∈ store.recentLogQuotaTruncatedStreams then (false, store)
  else (true, { store with
    recentLogQuotaTruncatedStreams := insert key store.recentLogQuotaTruncatedStreams
    recentLogTruncatedStreams := insert key store.recentLogTruncatedStreams })

end

def append (key : TaskRestartKey) (stream : TaskLogStream) (text : String) (truncated : Bool)
    (serverTimestampEpochSeconds : ℕ) : RecentLogStore :=
  let overlong := text.utf8ByteSize > maxRecentLogChunkBytes
  let text := if overlong then
      String.ofList (truncateAtBoundary maxRecentLogChunkBytes text.toList)
    else text
  let logs := store.recentLogs[(key.tenant, key.project)]?.getD []
  let sameProcess := fun entry : RecentLogEntry => decide (entry.process = key.process)
  let excess := logs.countP sameProcess + 1 - maxRecentLogEntriesPerProcess
  let droppedOfProcess := BoundedQueue.takeFirst sameProcess excess logs
  let logs := BoundedQueue.dropFirst sameProcess excess logs
  let droppedOfProject := entriesOverBudget text.utf8ByteSize logs
  let logs := logs.drop droppedOfProject.length
  { store with
    nextRecentLogSequence := saturatingAdd store.nextRecentLogSequence 1
    recentLogs := store.recentLogs.insert (key.tenant, key.project)
      (logs ++ [{ sequence := store.nextRecentLogSequence
                  process := key.process
                  task := key.task
                  stream := stream
                  text := text
                  serverTimestampEpochSeconds := serverTimestampEpochSeconds
                  truncated := truncated || overlong }])
    recentLogDroppedThrough := (droppedOfProcess ++ droppedOfProject).foldl
      (fun dropped entry =>
        let process := ⟨key.tenant, key.project, entry.process⟩
        dropped.insert process (max (dropped[process]?.getD 0) entry.sequence))
      store.recentLogDroppedThrough }

/-- The entries of a process after a sequence number, at most `limit` of them, and
whether an entry after it was dropped. -/
def list (key : ProcessControlKey) (task : Option TaskInstanceId) (afterSequence limit : ℕ) :
    List RecentLogEntry × Bool :=
  let historyTruncated := (store.recentLogDroppedThrough[key]?).any (· > afterSequence)
  let entries := (store.recentLogs[(key.tenant, key.project)]?.getD []).filter fun entry =>
    entry.process = key.process ∧ entry.sequence > afterSequence ∧
      task.all fun task => decide (entry.task = task)
  (entries.take limit, historyTruncated)

/-- Forget the accounting of the streams with a property. -/
def forgetStreams (property : LogStreamKey → Bool) : RecentLogStore :=
  { store with
    recentLogAccountedBytes := store.recentLogAccountedBytes.filter fun key _ => !property key
    recentLogTruncatedStreams := store.recentLogTruncatedStreams.filter (!property ·)
    recentLogQuotaTruncatedStreams :=
      store.recentLogQuotaTruncatedStreams.filter (!property ·) }

def clearTask (key : TaskRestartKey) : RecentLogStore :=
  store.forgetStreams (·.toTaskRestartKey = key)

def clearProcess (key : ProcessControlKey) : RecentLogStore :=
  let store := store.forgetStreams (·.toProcessControlKey = key)
  { store with
    recentLogDroppedThrough := store.recentLogDroppedThrough.erase key
    recentLogs :=
      match store.recentLogs[(key.tenant, key.project)]? with
      | none => store.recentLogs
      | some logs =>
        match logs.filter (·.process ≠ key.process) with
        | [] => store.recentLogs.erase (key.tenant, key.project)
        | kept => store.recentLogs.insert (key.tenant, key.project) kept }

end RecentLogStore

end Clusterflux
