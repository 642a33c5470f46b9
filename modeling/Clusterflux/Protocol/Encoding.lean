import Clusterflux.Core.ArtifactTransfer
import Clusterflux.Core.Encoding
import Clusterflux.Protocol.Requests

/-!
# Wire encodings of the signed requests

The JSON encodings of the requests that are covered by a signature.  The digest
that is signed is computed from the encoding without the signature itself and
without null entries.
-/

namespace Clusterflux

open JsonText
open FieldsCodec (required)

/-! ## Shared fields -/

abbrev nodeFieldsCodec : FieldsCodec NodeFields :=
  ((textField "tenant").and <| (textField "project").and <| textField "node").congr
    { toFun value := (value.tenant, value.project, value.node)
      invFun := fun (a, b, c) => ⟨a, b, c⟩ }

abbrev taskFieldsCodec : FieldsCodec TaskFields :=
  (nodeFieldsCodec.and <| (textField "process").and <| textField "task").congr
    { toFun value := (value.toNodeFields, value.process, value.task)
      invFun := fun (a, b, c) => ⟨a, b, c⟩ }

abbrev activeNodeAssignmentCodec : WireCodec ActiveNodeAssignment :=
  (((textField "assignment_id").and <| (textField "attempt_id").and <|
    numberField "lease_epoch").congr
    { toFun value := (value.assignmentId, value.attemptId, value.leaseEpoch)
      invFun := fun (a, b, c) => ⟨a, b, c⟩ }).object

instance : activeNodeAssignmentCodec.NeverNull := ⟨fun _ => rfl⟩

def DebugAcknowledgementState.name : DebugAcknowledgementState → String
  | .frozen => "frozen"
  | .running => "running"
  | .failed => "failed"

def debugAcknowledgementStateCodec : WireCodec DebugAcknowledgementState :=
  .text DebugAcknowledgementState.name

def TaskLogStream.name : TaskLogStream → String
  | .stdout => "stdout"
  | .stderr => "stderr"

def taskLogStreamCodec : WireCodec TaskLogStream := .text TaskLogStream.name

/-! ## Artifact transfers -/

def ArtifactAssignmentRole.name : ArtifactAssignmentRole → String
  | .provider => "provider"
  | .receiver => "receiver"

def artifactAssignmentRoleCodec : WireCodec ArtifactAssignmentRole :=
  .text ArtifactAssignmentRole.name

def ClusterfluxPathKind.name : ClusterfluxPathKind → String
  | .local => "local"
  | .direct => "direct"
  | .relayed => "relayed"
  | .unknown => "unknown"

def clusterfluxPathKindCodec : WireCodec ClusterfluxPathKind := .text ClusterfluxPathKind.name

def ArtifactTransferState.name : ArtifactTransferState → String
  | .requested => "requested"
  | .sourceSelected => "source_selected"
  | .connecting => "connecting"
  | .waitingForDirect => "waiting_for_direct"
  | .transferring => "transferring"
  | .verifying => "verifying"
  | .completed => "completed"
  | .retrying => "retrying"
  | .failed => "failed"
  | .cancelled => "cancelled"
  | .expired => "expired"

def artifactTransferStateCodec : WireCodec ArtifactTransferState := .text ArtifactTransferState.name

def artifactTransferErrorCodeCodec : WireCodec ArtifactTransferErrorCode :=
  .text ArtifactTransferErrorCode.asStr

instance : artifactTransferErrorCodeCodec.NeverNull := ⟨fun _ => rfl⟩

abbrev irohEndpointAdvertisementCodec : WireCodec IrohEndpointAdvertisement :=
  (((idField "tenant" .tenant).and <| (idField "project" .project).and <|
    (idField "node" .node).and <| (textField "endpoint_id").and <|
    (numberField "generation").and <| (numberField "relay_configuration_generation").and <|
    (textsField "direct_addresses").and <| (textsField "relay_urls").and <|
    numberField "expires_at").congr
    { toFun value := (value.tenant, value.project, value.node, value.endpointId,
        value.generation, value.relayConfigurationGeneration, value.directAddresses,
        value.relayUrls, value.expiresAt)
      invFun := fun (a, b, c, d, e, f, g, h, i) => ⟨a, b, c, d, e, f, g, h, i⟩ }).object

/-! ## Requests of nodes -/

namespace NodeRequest

abbrev ReportNodeCapabilities.fieldsCodec : FieldsCodec ReportNodeCapabilities :=
  (nodeFieldsCodec.and <| (required "capabilities" nodeCapabilitiesCodec).and <|
    (digestsField "cached_environment_digests").and <|
    (digestsField "dependency_cache_digests").and <| (digestsField "source_snapshots").and <|
    (textsField "artifact_locations").and <| flagField "online").congr
    { toFun value := (value.toNodeFields, value.capabilities, value.cachedEnvironmentDigests,
        value.dependencyCacheDigests, value.sourceSnapshots, value.artifactLocations,
        value.online)
      invFun := fun (a, b, c, d, e, f, g) => ⟨a, b, c, d, e, f, g⟩ }

abbrev PollNodeAssignment.fieldsCodec : FieldsCodec PollNodeAssignment :=
  (nodeFieldsCodec.and <| (flagField "accept_system_tasks").and <|
    (flagField "accept_process_tasks").and <|
    FieldsCodec.optional "active_assignment" activeNodeAssignmentCodec true).congr
    { toFun value := (value.toNodeFields, value.acceptSystemTasks, value.acceptProcessTasks,
        value.activeAssignment)
      invFun := fun (a, b, c, d) => ⟨a, b, c, d⟩ }

abbrev AcknowledgeNodeAssignment.fieldsCodec : FieldsCodec AcknowledgeNodeAssignment :=
  (nodeFieldsCodec.and <| (textField "assignment_id").and <| numberField "lease_epoch").congr
    { toFun value := (value.toNodeFields, value.assignmentId, value.leaseEpoch)
      invFun := fun (a, b, c) => ⟨a, b, c⟩ }

abbrev ReportSystemTask.fieldsCodec : FieldsCodec ReportSystemTask :=
  (nodeFieldsCodec.and <| required "result" systemTaskResultCodec).congr
    { toFun value := (value.toNodeFields, value.result)
      invFun := fun (fields, result) => ⟨fields, result⟩ }

abbrev PollTaskSecretGrant.fieldsCodec : FieldsCodec PollTaskSecretGrant :=
  (taskFieldsCodec.and <| textField "secret_name").congr
    { toFun value := (value.toTaskFields, value.secretName)
      invFun := fun (fields, secretName) => ⟨fields, secretName⟩ }

abbrev ReportIrohEndpointAdvertisement.fieldsCodec : FieldsCodec ReportIrohEndpointAdvertisement :=
  (nodeFieldsCodec.and <| required "advertisement" irohEndpointAdvertisementCodec).congr
    { toFun value := (value.toNodeFields, value.advertisement)
      invFun := fun (fields, advertisement) => ⟨fields, advertisement⟩ }

abbrev RequestArtifactInterchange.fieldsCodec : FieldsCodec RequestArtifactInterchange :=
  (nodeFieldsCodec.and <| (textField "process").and <| (textField "artifact").and <|
    numberField "offset").congr
    { toFun value := (value.toNodeFields, value.process, value.artifact, value.offset)
      invFun := fun (a, b, c, d) => ⟨a, b, c, d⟩ }

abbrev AcknowledgeArtifactAssignment.fieldsCodec : FieldsCodec AcknowledgeArtifactAssignment :=
  (nodeFieldsCodec.and <| (textField "transfer_id").and <|
    required "role" artifactAssignmentRoleCodec).congr
    { toFun value := (value.toNodeFields, value.transferId, value.role)
      invFun := fun (a, b, c) => ⟨a, b, c⟩ }

abbrev ReportArtifactInterchange.fieldsCodec : FieldsCodec ReportArtifactInterchange :=
  (nodeFieldsCodec.and <| (textField "transfer_id").and <|
    (required "state" artifactTransferStateCodec).and <|
    (numberField "bytes_completed").and <|
    (required "path_kind" clusterfluxPathKindCodec).and <|
    (FieldsCodec.optional "failure_code" artifactTransferErrorCodeCodec true).and <|
    (optionalDigest "verified_digest" true).and <| optionalNumber "verified_size" true).congr
    { toFun value := (value.toNodeFields, value.transferId, value.state, value.bytesCompleted,
        value.pathKind, value.failureCode, value.verifiedDigest, value.verifiedSize)
      invFun := fun (a, b, c, d, e, f, g, h) => ⟨a, b, c, d, e, f, g, h⟩ }

abbrev ReleaseArtifact.fieldsCodec : FieldsCodec ReleaseArtifact :=
  (taskFieldsCodec.and <| (textField "artifact").and contentCodec).congr
    { toFun value := (value.toTaskFields, value.artifact, value.digest, value.sizeBytes)
      invFun := fun (a, b, c, d) => ⟨a, b, c, d⟩ }

abbrev BeginNodeDrain.fieldsCodec : FieldsCodec BeginNodeDrain :=
  (nodeFieldsCodec.and <| (flagField "ephemeral").and <|
    (optionalNumber "provider_deadline_epoch_seconds" true).and <|
    (optionalNumber "soft_drain_deadline_epoch_seconds" true).and <|
    optionalNumber "hard_drain_deadline_epoch_seconds" true).congr
    { toFun value := (value.toNodeFields, value.ephemeral, value.providerDeadlineEpochSeconds,
        value.softDrainDeadlineEpochSeconds, value.hardDrainDeadlineEpochSeconds)
      invFun := fun (a, b, c, d, e) => ⟨a, b, c, d, e⟩ }

abbrev launchCodec : FieldsCodec (TaskSpec × Bool × String × String) :=
  (required "task_spec" taskSpecCodec).and <| (flagField "wait_for_node").and <|
    (textField "artifact_path").and <| textField "wasm_module_base64"

def LaunchChildTask.fieldsCodec : FieldsCodec LaunchChildTask :=
  (nodeFieldsCodec.and <| (textField "process").and <|
    (textField "parent_task").and launchCodec).congr
    { toFun value := (value.toNodeFields, value.process, value.parentTask, value.taskSpec,
        value.waitForNode, value.artifactPath, value.wasmModuleBase64)
      invFun := fun (a, b, c, d, e, f, g) => ⟨a, b, c, d, e, f, g⟩ }

abbrev JoinChildTask.fieldsCodec : FieldsCodec JoinChildTask :=
  (taskFieldsCodec.and <| textField "parent_task").congr
    { toFun value := (value.toTaskFields, value.parentTask)
      invFun := fun (fields, parentTask) => ⟨fields, parentTask⟩ }

abbrev CompleteSourcePreparation.fieldsCodec : FieldsCodec CompleteSourcePreparation :=
  (nodeFieldsCodec.and <| (required "provider" sourceProviderKindCodec).and <|
    digestField "source_snapshot").congr
    { toFun value := (value.toNodeFields, value.provider, value.sourceSnapshot)
      invFun := fun (a, b, c) => ⟨a, b, c⟩ }

abbrev ReconnectNode.fieldsCodec : FieldsCodec ReconnectNode :=
  (nodeFieldsCodec.and <| (textField "process").and <| numberField "epoch").congr
    { toFun value := (value.toNodeFields, value.process, value.epoch)
      invFun := fun (a, b, c) => ⟨a, b, c⟩ }

abbrev PollTaskControl.fieldsCodec : FieldsCodec PollTaskControl :=
  (taskFieldsCodec.and <| FieldsCodec.listUnlessEmpty "child_tasks" .string).congr
    { toFun value := (value.toTaskFields, value.childTasks)
      invFun := fun (fields, childTasks) => ⟨fields, childTasks⟩ }

abbrev ReportDebugState.fieldsCodec : FieldsCodec ReportDebugState :=
  (taskFieldsCodec.and <| (numberField "epoch").and <|
    (required "state" debugAcknowledgementStateCodec).and <|
    (FieldsCodec.optional "current_source_location" sourceLocationCodec false).and <|
    (textsField "stack_frames").and <|
    (required "local_values" (.list (.pair .string .string))).and <|
    (required "task_args" (.list (.pair .string .string))).and <|
    (required "handles" (.list (.pair .string .string))).and <|
    (optionalText "command_status" false).and <| (textsField "recent_output").and <|
    optionalText "message" false).congr
    { toFun value := (value.toTaskFields, value.epoch, value.state, value.currentSourceLocation,
        value.stackFrames, value.localValues, value.taskArgs, value.handles, value.commandStatus,
        value.recentOutput, value.message)
      invFun := fun (a, b, c, d, e, f, g, h, i, j, k) => ⟨a, b, c, d, e, f, g, h, i, j, k⟩ }

abbrev ReportDebugProbeHit.fieldsCodec : FieldsCodec ReportDebugProbeHit :=
  (taskFieldsCodec.and <| textField "probe_symbol").congr
    { toFun value := (value.toTaskFields, value.probeSymbol)
      invFun := fun (fields, probeSymbol) => ⟨fields, probeSymbol⟩ }

abbrev ReportTaskLog.fieldsCodec : FieldsCodec ReportTaskLog :=
  (taskFieldsCodec.and <| (numberField "stdout_bytes").and <| (numberField "stderr_bytes").and <|
    (textField "stdout_tail").and <| (textField "stderr_tail").and <|
    (flagField "stdout_truncated").and <| (flagField "stderr_truncated").and <|
    flagField "backpressured").congr
    { toFun value := (value.toTaskFields, value.stdoutBytes, value.stderrBytes, value.stdoutTail,
        value.stderrTail, value.stdoutTruncated, value.stderrTruncated, value.backpressured)
      invFun := fun (a, b, c, d, e, f, g, h) => ⟨a, b, c, d, e, f, g, h⟩ }

abbrev ReportTaskLogChunk.fieldsCodec : FieldsCodec ReportTaskLogChunk :=
  (taskFieldsCodec.and <| (required "stream" taskLogStreamCodec).and <|
    (numberField "offset").and <| (numberField "source_bytes").and <| (textField "text").and <|
    flagField "truncated").congr
    { toFun value := (value.toTaskFields, value.stream, value.offset, value.sourceBytes,
        value.text, value.truncated)
      invFun := fun (a, b, c, d, e, f) => ⟨a, b, c, d, e, f⟩ }

abbrev ReportVfsMetadata.fieldsCodec : FieldsCodec ReportVfsMetadata :=
  (taskFieldsCodec.and <| (optionalText "artifact_path" false).and <|
    (optionalDigest "artifact_digest" false).and <|
    (optionalNumber "artifact_size_bytes" false).and <| flagField "large_bytes_uploaded").congr
    { toFun value := (value.toTaskFields, value.artifactPath, value.artifactDigest,
        value.artifactSizeBytes, value.largeBytesUploaded)
      invFun := fun (fields, artifactPath, artifactDigest, artifactSizeBytes, largeBytesUploaded)
        =>
        ⟨fields, artifactPath, artifactDigest, artifactSizeBytes, largeBytesUploaded⟩ }

def TaskCompleted.fieldsCodec : FieldsCodec TaskCompleted :=
  (taskFieldsCodec.and <|
    (FieldsCodec.optional "terminal_state" taskTerminalStateCodec false).and <|
    (FieldsCodec.optional "status_code" .integer false).and <|
    (numberField "stdout_bytes").and <| (numberField "stderr_bytes").and <|
    (textField "stdout_tail").and <| (textField "stderr_tail").and <|
    (flagField "stdout_truncated").and <| (flagField "stderr_truncated").and <|
    (optionalText "artifact_path" false).and <| (optionalDigest "artifact_digest" false).and <|
    (optionalNumber "artifact_size_bytes" false).and <|
    FieldsCodec.optional "result" TaskBoundaryValue.codec false).congr
    { toFun value := (value.toTaskFields, value.terminalState, value.statusCode,
        value.stdoutBytes, value.stderrBytes, value.stdoutTail, value.stderrTail,
        value.stdoutTruncated, value.stderrTruncated, value.artifactPath, value.artifactDigest,
        value.artifactSizeBytes, value.result)
      invFun := fun (a, b, c, d, e, f, g, h, i, j, k, l, m) =>
        ⟨a, b, c, d, e, f, g, h, i, j, k, l, m⟩ }

end NodeRequest

namespace NodeRequestKind

/-- Kinds are told apart by their names on the wire. -/
theorem name_injective : Function.Injective name := by
  intro left right heq
  cases left <;> cases right <;> first | rfl | simp [name] at heq

/-- The fields of each kind, in the order in which they are written. -/
def fieldsCodec : ∀ kind : NodeRequestKind, FieldsCodec kind.Payload
  | reportNodeCapabilities => NodeRequest.ReportNodeCapabilities.fieldsCodec
  | pollNodeAssignment => NodeRequest.PollNodeAssignment.fieldsCodec
  | acknowledgeNodeAssignment => NodeRequest.AcknowledgeNodeAssignment.fieldsCodec
  | reportSystemTask => NodeRequest.ReportSystemTask.fieldsCodec
  | pollTaskSecretGrant => NodeRequest.PollTaskSecretGrant.fieldsCodec
  | getArtifactDataPlanePolicy => nodeFieldsCodec
  | reportIrohEndpointAdvertisement => NodeRequest.ReportIrohEndpointAdvertisement.fieldsCodec
  | requestArtifactInterchange => NodeRequest.RequestArtifactInterchange.fieldsCodec
  | pollArtifactProviderAssignment => nodeFieldsCodec
  | pollArtifactReceiverAssignment => nodeFieldsCodec
  | acknowledgeArtifactAssignment => NodeRequest.AcknowledgeArtifactAssignment.fieldsCodec
  | reportArtifactInterchange => NodeRequest.ReportArtifactInterchange.fieldsCodec
  | releaseArtifact => NodeRequest.ReleaseArtifact.fieldsCodec
  | beginNodeDrain => NodeRequest.BeginNodeDrain.fieldsCodec
  | finalizeNodeRelease => nodeFieldsCodec
  | launchChildTask => NodeRequest.LaunchChildTask.fieldsCodec
  | joinChildTask => NodeRequest.JoinChildTask.fieldsCodec
  | completeSourcePreparation => NodeRequest.CompleteSourcePreparation.fieldsCodec
  | reconnectNode => NodeRequest.ReconnectNode.fieldsCodec
  | pollTaskControl => NodeRequest.PollTaskControl.fieldsCodec
  | pollDebugCommand => taskFieldsCodec
  | reportDebugState => NodeRequest.ReportDebugState.fieldsCodec
  | reportDebugProbeHit => NodeRequest.ReportDebugProbeHit.fieldsCodec
  | reportTaskLog => NodeRequest.ReportTaskLog.fieldsCodec
  | reportTaskLogChunk => NodeRequest.ReportTaskLogChunk.fieldsCodec
  | reportVfsMetadata => NodeRequest.ReportVfsMetadata.fieldsCodec
  | taskCompleted => NodeRequest.TaskCompleted.fieldsCodec

theorem nodup_keys (kind : NodeRequestKind) : ("type" :: kind.fieldsCodec.keys).Nodup := by
  cases kind <;> decide

end NodeRequestKind

/-- A request of a node is an object with its kind under `type`. -/
def NodeRequest.codec : WireCodec NodeRequest :=
  (internallyTagged "type" NodeRequestKind.name NodeRequestKind.name_injective
    NodeRequestKind.fieldsCodec NodeRequestKind.nodup_keys).congr NodeRequest.sigmaEquiv

/-! ## What is lost -/

section Plain

instance : debugAcknowledgementStateCodec.Plain := ⟨rfl⟩
instance : taskLogStreamCodec.Plain := ⟨rfl⟩
instance : artifactAssignmentRoleCodec.Plain := ⟨rfl⟩
instance : clusterfluxPathKindCodec.Plain := ⟨rfl⟩
instance : artifactTransferStateCodec.Plain := ⟨rfl⟩
instance : artifactTransferErrorCodeCodec.Plain := ⟨rfl⟩

end Plain

namespace NodeRequest

/-- Only task arguments and task results carry free-form JSON. -/
def withoutNulls : NodeRequest → NodeRequest
  | ⟨.launchChildTask, request⟩ =>
    ⟨.launchChildTask,
      ({ request with taskSpec := request.taskSpec.withoutNulls } : LaunchChildTask)⟩
  | ⟨.taskCompleted, request⟩ =>
    ⟨.taskCompleted,
      ({ request with
          result := request.result.map TaskBoundaryValue.withoutNulls } : TaskCompleted)⟩
  | request => request

@[simp]
theorem kind_withoutNulls (request : NodeRequest) : request.withoutNulls.kind = request.kind := by
  obtain ⟨kind, request⟩ := request
  cases kind <;> rfl

@[simp]
theorem fields_withoutNulls (request : NodeRequest) :
    request.withoutNulls.fields = request.fields := by
  obtain ⟨kind, request⟩ := request
  cases kind <;> rfl

theorem LaunchChildTask.normalize_fieldsCodec (request : LaunchChildTask) :
    LaunchChildTask.fieldsCodec.normalize request =
      { request with taskSpec := request.taskSpec.withoutNulls } := by
  simp [fieldsCodec, FieldsCodec.congr, FieldsCodec.and, required,
    normalize_taskSpecCodec]

theorem TaskCompleted.normalize_fieldsCodec (request : TaskCompleted) :
    TaskCompleted.fieldsCodec.normalize request =
      { request with result := request.result.map TaskBoundaryValue.withoutNulls } := by
  simp [fieldsCodec, FieldsCodec.congr, FieldsCodec.and, FieldsCodec.optional,
    TaskBoundaryValue.normalize_codec]

/-- Of a request of a node only the null entries of free-form JSON are lost. -/
theorem normalize_codec : codec.normalize = withoutNulls := by
  funext request
  obtain ⟨kind, request⟩ := request
  have hnormalize : codec.normalize ⟨kind, request⟩ =
      ⟨kind, kind.fieldsCodec.normalize request⟩ := rfl
  rw [hnormalize]
  cases kind
  case launchChildTask =>
    exact congrArg (NodeRequest.mk .launchChildTask)
      (LaunchChildTask.normalize_fieldsCodec request)
  case taskCompleted =>
    exact congrArg (NodeRequest.mk .taskCompleted) (TaskCompleted.normalize_fieldsCodec request)
  all_goals
    simp only [NodeRequestKind.fieldsCodec, FieldsCodec.normalize_of_plain]
    rfl

end NodeRequest

end Clusterflux
