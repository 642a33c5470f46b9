import Clusterflux.Core.Auth
import Clusterflux.Core.Execution

/-!
# Requests of nodes

The requests a node may send in a signed envelope.  Identifiers are still plain
texts here: the coordinator checks them when it handles a request.
-/

namespace Clusterflux

/-- The scope every request of a node names. -/
structure NodeFields where
  tenant : String
  project : String
  node : String

/-- The task a request of a node is about. -/
structure TaskFields extends NodeFields where
  process : String
  task : String

/-- Fence for work a node has acknowledged. -/
structure ActiveNodeAssignment where
  assignmentId : String
  attemptId : String
  leaseEpoch : ℕ

inductive DebugAcknowledgementState where
  | frozen
  | running
  | failed

inductive TaskLogStream where
  | stdout
  | stderr
  deriving DecidableEq

namespace NodeRequest

structure ReportNodeCapabilities extends NodeFields where
  capabilities : NodeCapabilities
  cachedEnvironmentDigests : List Digest
  dependencyCacheDigests : List Digest
  sourceSnapshots : List Digest
  artifactLocations : List String
  online : Bool

/-- A node asks for work, and names the work it is doing. -/
structure PollNodeAssignment extends NodeFields where
  acceptSystemTasks : Bool
  acceptProcessTasks : Bool
  activeAssignment : Option ActiveNodeAssignment

/-- A node takes the work it was offered. -/
structure AcknowledgeNodeAssignment extends NodeFields where
  assignmentId : String
  leaseEpoch : ℕ

structure ReportSystemTask extends NodeFields where
  result : SystemTaskResult

structure PollTaskSecretGrant extends TaskFields where
  secretName : String

structure ReportIrohEndpointAdvertisement extends NodeFields where
  advertisement : IrohEndpointAdvertisement

/-- A node asks for an artifact that another node has. -/
structure RequestArtifactInterchange extends NodeFields where
  process : String
  artifact : String
  offset : ℕ

structure AcknowledgeArtifactAssignment extends NodeFields where
  transferId : String
  role : ArtifactAssignmentRole

/-- The progress of a transfer, as either side sees it. -/
structure ReportArtifactInterchange extends NodeFields where
  transferId : String
  state : ArtifactTransferState
  bytesCompleted : ℕ
  pathKind : ClusterfluxPathKind
  failureCode : Option ArtifactTransferErrorCode
  verifiedDigest : Option Digest
  verifiedSize : Option ℕ

structure ReleaseArtifact extends TaskFields where
  artifact : String
  digest : Digest
  sizeBytes : ℕ

/-- A node announces that it will go away. -/
structure BeginNodeDrain extends NodeFields where
  ephemeral : Bool
  providerDeadlineEpochSeconds : Option ℕ
  softDrainDeadlineEpochSeconds : Option ℕ
  hardDrainDeadlineEpochSeconds : Option ℕ

/-- A task launches another task of its process. -/
structure LaunchChildTask extends NodeFields where
  process : String
  parentTask : String
  taskSpec : TaskSpec
  waitForNode : Bool
  artifactPath : String
  wasmModuleBase64 : String

structure JoinChildTask extends TaskFields where
  parentTask : String

structure CompleteSourcePreparation extends NodeFields where
  provider : SourceProviderKind
  sourceSnapshot : Digest

structure ReconnectNode extends NodeFields where
  process : String
  epoch : ℕ

structure PollTaskControl extends TaskFields where
  /-- Children this task is waiting for. -/
  childTasks : List String

structure ReportDebugState extends TaskFields where
  epoch : ℕ
  state : DebugAcknowledgementState
  currentSourceLocation : Option SourceLocation
  stackFrames : List String
  localValues : List (String × String)
  taskArgs : List (String × String)
  handles : List (String × String)
  commandStatus : Option String
  recentOutput : List String
  message : Option String

structure ReportDebugProbeHit extends TaskFields where
  probeSymbol : String

structure ReportTaskLog extends TaskFields where
  stdoutBytes : ℕ
  stderrBytes : ℕ
  stdoutTail : String
  stderrTail : String
  stdoutTruncated : Bool
  stderrTruncated : Bool
  backpressured : Bool

structure ReportTaskLogChunk extends TaskFields where
  stream : TaskLogStream
  offset : ℕ
  sourceBytes : ℕ
  text : String
  truncated : Bool

structure ReportVfsMetadata extends TaskFields where
  artifactPath : Option String
  artifactDigest : Option Digest
  artifactSizeBytes : Option ℕ
  largeBytesUploaded : Bool

/-- The end of a task, with the ends of its logs and its result. -/
structure TaskCompleted extends TaskFields where
  terminalState : Option TaskTerminalState
  statusCode : Option ℤ
  stdoutBytes : ℕ
  stderrBytes : ℕ
  stdoutTail : String
  stderrTail : String
  stdoutTruncated : Bool
  stderrTruncated : Bool
  artifactPath : Option String
  artifactDigest : Option Digest
  artifactSizeBytes : Option ℕ
  result : Option TaskBoundaryValue

end NodeRequest

/-- The requests a signed node envelope accepts. -/
inductive NodeRequestKind where
  | reportNodeCapabilities
  | pollNodeAssignment
  | acknowledgeNodeAssignment
  | reportSystemTask
  | pollTaskSecretGrant
  | getArtifactDataPlanePolicy
  | reportIrohEndpointAdvertisement
  | requestArtifactInterchange
  | pollArtifactProviderAssignment
  | pollArtifactReceiverAssignment
  | acknowledgeArtifactAssignment
  | reportArtifactInterchange
  | releaseArtifact
  | beginNodeDrain
  | finalizeNodeRelease
  | launchChildTask
  | joinChildTask
  | completeSourcePreparation
  | reconnectNode
  | pollTaskControl
  | pollDebugCommand
  | reportDebugState
  | reportDebugProbeHit
  | reportTaskLog
  | reportTaskLogChunk
  | reportVfsMetadata
  | taskCompleted

namespace NodeRequestKind

/-- The kind as it is signed and as it is written on the wire. -/
def name : NodeRequestKind → String
  | reportNodeCapabilities => "report_node_capabilities"
  | pollNodeAssignment => "poll_node_assignment"
  | acknowledgeNodeAssignment => "acknowledge_node_assignment"
  | reportSystemTask => "report_system_task"
  | pollTaskSecretGrant => "poll_task_secret_grant"
  | getArtifactDataPlanePolicy => "get_artifact_data_plane_policy"
  | reportIrohEndpointAdvertisement => "report_iroh_endpoint_advertisement"
  | requestArtifactInterchange => "request_artifact_interchange"
  | pollArtifactProviderAssignment => "poll_artifact_provider_assignment"
  | pollArtifactReceiverAssignment => "poll_artifact_receiver_assignment"
  | acknowledgeArtifactAssignment => "acknowledge_artifact_assignment"
  | reportArtifactInterchange => "report_artifact_interchange"
  | releaseArtifact => "release_artifact"
  | beginNodeDrain => "begin_node_drain"
  | finalizeNodeRelease => "finalize_node_release"
  | launchChildTask => "launch_child_task"
  | joinChildTask => "join_child_task"
  | completeSourcePreparation => "complete_source_preparation"
  | reconnectNode => "reconnect_node"
  | pollTaskControl => "poll_task_control"
  | pollDebugCommand => "poll_debug_command"
  | reportDebugState => "report_debug_state"
  | reportDebugProbeHit => "report_debug_probe_hit"
  | reportTaskLog => "report_task_log"
  | reportTaskLogChunk => "report_task_log_chunk"
  | reportVfsMetadata => "report_vfs_metadata"
  | taskCompleted => "task_completed"

/-- The fields of a request of the given kind. -/
def Payload : NodeRequestKind → Type
  | reportNodeCapabilities => NodeRequest.ReportNodeCapabilities
  | pollNodeAssignment => NodeRequest.PollNodeAssignment
  | acknowledgeNodeAssignment => NodeRequest.AcknowledgeNodeAssignment
  | reportSystemTask => NodeRequest.ReportSystemTask
  | pollTaskSecretGrant => NodeRequest.PollTaskSecretGrant
  | getArtifactDataPlanePolicy => NodeFields
  | reportIrohEndpointAdvertisement => NodeRequest.ReportIrohEndpointAdvertisement
  | requestArtifactInterchange => NodeRequest.RequestArtifactInterchange
  | pollArtifactProviderAssignment => NodeFields
  | pollArtifactReceiverAssignment => NodeFields
  | acknowledgeArtifactAssignment => NodeRequest.AcknowledgeArtifactAssignment
  | reportArtifactInterchange => NodeRequest.ReportArtifactInterchange
  | releaseArtifact => NodeRequest.ReleaseArtifact
  | beginNodeDrain => NodeRequest.BeginNodeDrain
  | finalizeNodeRelease => NodeFields
  | launchChildTask => NodeRequest.LaunchChildTask
  | joinChildTask => NodeRequest.JoinChildTask
  | completeSourcePreparation => NodeRequest.CompleteSourcePreparation
  | reconnectNode => NodeRequest.ReconnectNode
  | pollTaskControl => NodeRequest.PollTaskControl
  | pollDebugCommand => TaskFields
  | reportDebugState => NodeRequest.ReportDebugState
  | reportDebugProbeHit => NodeRequest.ReportDebugProbeHit
  | reportTaskLog => NodeRequest.ReportTaskLog
  | reportTaskLogChunk => NodeRequest.ReportTaskLogChunk
  | reportVfsMetadata => NodeRequest.ReportVfsMetadata
  | taskCompleted => NodeRequest.TaskCompleted

end NodeRequestKind

/-- A request a node may send in a signed envelope. -/
structure NodeRequest where
  kind : NodeRequestKind
  payload : kind.Payload

namespace NodeRequest

/-- The scope fields of a request, whatever its kind. -/
def fields : NodeRequest → NodeFields
  | ⟨.reportNodeCapabilities, request⟩ => request.toNodeFields
  | ⟨.pollNodeAssignment, request⟩ => request.toNodeFields
  | ⟨.acknowledgeNodeAssignment, request⟩ => request.toNodeFields
  | ⟨.reportSystemTask, request⟩ => request.toNodeFields
  | ⟨.pollTaskSecretGrant, request⟩ => request.toNodeFields
  | ⟨.getArtifactDataPlanePolicy, fields⟩ => fields
  | ⟨.reportIrohEndpointAdvertisement, request⟩ => request.toNodeFields
  | ⟨.requestArtifactInterchange, request⟩ => request.toNodeFields
  | ⟨.pollArtifactProviderAssignment, fields⟩ => fields
  | ⟨.pollArtifactReceiverAssignment, fields⟩ => fields
  | ⟨.acknowledgeArtifactAssignment, request⟩ => request.toNodeFields
  | ⟨.reportArtifactInterchange, request⟩ => request.toNodeFields
  | ⟨.releaseArtifact, request⟩ => request.toNodeFields
  | ⟨.beginNodeDrain, request⟩ => request.toNodeFields
  | ⟨.finalizeNodeRelease, fields⟩ => fields
  | ⟨.launchChildTask, request⟩ => request.toNodeFields
  | ⟨.joinChildTask, request⟩ => request.toNodeFields
  | ⟨.completeSourcePreparation, request⟩ => request.toNodeFields
  | ⟨.reconnectNode, request⟩ => request.toNodeFields
  | ⟨.pollTaskControl, request⟩ => request.toNodeFields
  | ⟨.pollDebugCommand, request⟩ => request.toNodeFields
  | ⟨.reportDebugState, request⟩ => request.toNodeFields
  | ⟨.reportDebugProbeHit, request⟩ => request.toNodeFields
  | ⟨.reportTaskLog, request⟩ => request.toNodeFields
  | ⟨.reportTaskLogChunk, request⟩ => request.toNodeFields
  | ⟨.reportVfsMetadata, request⟩ => request.toNodeFields
  | ⟨.taskCompleted, request⟩ => request.toNodeFields

/-- A request is its kind with the fields of that kind. -/
def sigmaEquiv : NodeRequest ≃ Σ kind : NodeRequestKind, kind.Payload where
  toFun request := ⟨request.kind, request.payload⟩
  invFun value := ⟨value.1, value.2⟩
  left_inv _ := rfl
  right_inv _ := rfl

end NodeRequest

end Clusterflux
