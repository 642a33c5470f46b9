import Clusterflux.Core.Execution
import Clusterflux.Foundation.Checks

/-!
# Automated runs

A run is started by a commit trigger, compiled by a node as a system task and
then launched as a process.  The data here is what the coordinator keeps about
a run and what it sends to the compiling node.
-/

namespace Clusterflux

open LengthFraming Checks

/-! ## Checks on texts -/

def validateCommitSha (value : String) : Except String Unit :=
  refuseIf (value.utf8ByteSize ≠ 40 || !value.toList.all fun char =>
      char.isDigit || ('a' ≤ char && char ≤ 'f'))
    "commit SHA must be exactly 40 lowercase hexadecimal characters"

def validateBoundedText (label value : String) (maximum : ℕ) : Except String Unit :=
  refuseIf (isBlank value || value.utf8ByteSize > maximum || value.toList.any isControl)
    (label ++ " is empty, too large, or contains control characters")

def validatePublicCloneUrl (value : String) : Except String Unit := do
  validateBoundedText "public clone URL" value 2048
  refuseIf (!startsWith value "https://" || value.toList.contains '@')
    "public clone URL must use HTTPS without credentials"

/-! ## Triggers -/

/-- A push to a repository.  There is one kind of forge and one kind of event. -/
structure CommitTrigger where
  triggerId : TriggerId
  repositoryId : RepositoryId
  repositoryUrl : String
  commitSha : String
  gitRef : String
  deliveryId : String
  actor : Option String
  trusted : Bool
  receivedAt : ℕ

namespace CommitTrigger

variable (trigger : CommitTrigger)

/-- The branch or tag that was pushed. -/
def refName : Option String :=
  stripStart trigger.gitRef "refs/heads/" <|> stripStart trigger.gitRef "refs/tags/"

def validate : Except String Unit := do
  validatePublicCloneUrl trigger.repositoryUrl
  validateCommitSha trigger.commitSha
  validateBoundedText "Git ref" trigger.gitRef 512
  refuseIf (trigger.refName.all (·.isEmpty)) "Git push ref must identify a branch or tag"
  validateBoundedText "forge delivery ID" trigger.deliveryId 256
  match trigger.actor with
  | none => pure ()
  | some actor => validateBoundedText "forge actor" actor 256

/-- Pushes of one commit to one ref of a repository share a run. -/
def runIdentity [Primitives] (project : ProjectId) : Digest :=
  Digest.fromParts ([ "clusterflux-automated-run:v1", project.value,
    trigger.repositoryId.value, trigger.commitSha, trigger.gitRef, "push" ].map utf8)

end CommitTrigger

/-! ## Sources and compilation requests -/

structure WorkflowSourceFile where
  path : String
  mode : ℕ
  digest : Digest
  bytes : Bytes
  deriving DecidableEq

/-- The source of a workflow at one commit.  Of the normalized manifest only
the digest is compared. -/
structure WorkflowSource where
  triggerId : TriggerId
  repositoryId : RepositoryId
  commitSha : String
  treeDigest : Digest
  manifestDigest : Digest
  files : List WorkflowSourceFile
  environments : List EnvironmentResource
  deriving DecidableEq

def WorkflowSource.totalBytes (source : WorkflowSource) : ℕ :=
  (source.files.map fun file => file.bytes.length).sum

structure WorkflowCompilerResourcePolicy where
  cpuCount : ℕ
  memoryBytes : ℕ
  wallClockSeconds : ℕ
  maxOutputBytes : ℕ
  maxDiagnosticBytes : ℕ
  deriving DecidableEq

/-- The source of a run, pinned to the compiler that is to compile it. -/
structure WorkflowCompilationRequest where
  runId : RunId
  source : WorkflowSource
  compilerProfile : String
  compilerImage : Digest
  compilerSdk : Digest
  rustToolchain : String
  resourcePolicy : WorkflowCompilerResourcePolicy
  deriving DecidableEq

def RepositoryRevision.validate (revision : RepositoryRevision) : Except String Unit := do
  validatePublicCloneUrl revision.cloneUrl
  validateCommitSha revision.commitSha
  refuseIf (!revision.sourceSnapshot.isValidSha256)
    "repository source snapshot is not a SHA-256 digest"

def maxCompilerDiagnosticBytes : ℕ := 64 * 1024

def WorkflowCompilerResourcePolicy.validate (policy : WorkflowCompilerResourcePolicy) :
    Except String Unit :=
  refuseIf (policy.cpuCount = 0 || policy.cpuCount > 8 ||
      policy.memoryBytes < 128 * 1024 * 1024 || policy.memoryBytes > 16 * 1024 * 1024 * 1024 ||
      policy.wallClockSeconds = 0 || policy.wallClockSeconds > 15 * 60 ||
      policy.maxOutputBytes = 0 || policy.maxOutputBytes > 16 * 1024 * 1024 ||
      policy.maxDiagnosticBytes = 0 || policy.maxDiagnosticBytes > maxCompilerDiagnosticBytes)
    "workflow compiler resource policy exceeds bounded limits"

/-- What is kept of a compiled bundle once the run has been launched. -/
structure CompiledWorkflowSummary where
  bundleDigest : Digest
  executionModuleDigest : Digest
  manifestDigest : Digest
  sourceTreeDigest : Digest
  debugSidecarDigest : Digest
  sdkAbiVersion : ℕ
  defaultEntrypoint : String
  entrypoints : List String
  taskDefinitions : List String
  environmentNames : List String
  environments : List EnvironmentResource
  compilerIdentity : CompilerIdentity
  sourcePaths : List String
  deriving DecidableEq

def CompiledWorkflowBundle.summary (bundle : CompiledWorkflowBundle) : CompiledWorkflowSummary where
  bundleDigest := bundle.bundleDigest
  executionModuleDigest := bundle.executionModuleDigest
  manifestDigest := bundle.manifestDigest
  sourceTreeDigest := bundle.sourceTreeDigest
  debugSidecarDigest := bundle.debugSidecarDigest
  sdkAbiVersion := bundle.sdkAbiVersion
  defaultEntrypoint := bundle.defaultEntrypoint
  entrypoints := bundle.entrypoints
  taskDefinitions := bundle.taskDefinitions
  environmentNames := bundle.environmentNames
  environments := bundle.environments
  compilerIdentity := bundle.compilerIdentity
  sourcePaths := bundle.sourcePaths

/-! ## Run records -/

/-- The stages of a run; the last three are final. -/
inductive AutomatedRunState where
  | accepted
  | loadingSource
  | waitingForCompilerNode
  | compilingWorkflow
  | waitingForProcessSlot
  | launching
  | running
  | completed
  | failed
  | cancelled
  deriving DecidableEq

def AutomatedRunState.isTerminal : AutomatedRunState → Bool
  | .completed | .failed | .cancelled => true
  | _ => false

/-- The public record of a run that a push started. -/
structure AutomatedRunRecord where
  runId : RunId
  primaryTriggerId : TriggerId
  tenant : TenantId
  project : ProjectId
  repositoryId : RepositoryId
  commitSha : String
  gitRef : String
  trusted : Bool
  workflowTreeDigest : Option Digest
  bundleDigest : Option Digest
  state : AutomatedRunState
  processId : Option ProcessId
  createdAt : ℕ
  startedAt : Option ℕ
  endedAt : Option ℕ
  failureCode : Option String
  failureMessage : Option String
  waitingReason : Option String
  publicationTag : Option String
  publicationUrl : Option String
  deriving DecidableEq

/-- The commit a running process was triggered by. -/
structure TriggerContext where
  triggerId : TriggerId
  repositoryId : RepositoryId
  commitSha : String
  gitRef : String
  trusted : Bool
  sourceSnapshot : Digest
  deriving DecidableEq

def maxAutomatedRunFailureBytes : ℕ := 4 * 1024

/-- The bounds of the texts, and an end exactly for the final states. -/
def AutomatedRunRecord.validate (run : AutomatedRunRecord) : Except String Unit := do
  validateCommitSha run.commitSha
  validateBoundedText "Git ref" run.gitRef 512
  refuseIf (run.failureMessage.any fun message =>
      message.utf8ByteSize > maxAutomatedRunFailureBytes)
    "automated run failure message exceeds its bounded limit"
  refuseIf (run.waitingReason.any fun reason => reason.utf8ByteSize > 256)
    "automated run waiting reason exceeds its bounded limit"
  refuseIf (run.state.isTerminal != run.endedAt.isSome)
    "automated run terminal state and end timestamp disagree"

/-! ## Checks on a reported result -/

/-- The identity of the release's workflow compiler, which node and coordinator
take from the same build. -/
structure SystemCompilerBundleManifest where
  bundleId : String
  bundleDigest : Digest
  environmentDigest : Digest
  sdkDigest : Digest
  rustToolchain : String
  sdkAbiVersion : ℕ
  wasmTarget : String
  supportedArch : String

/-- Inspection of workflow bundles and Wasm modules: pure functions of their
argument.  What they accept is not modelled. -/
class BundleInspection where
  /-- The compiler bundle this release was built with. -/
  systemManifest : SystemCompilerBundleManifest
  /-- `WorkflowSource::validate`. -/
  validateSource : WorkflowSource → Except String Unit
  /-- `CompiledWorkflowBundle::validate_metadata`. -/
  validateMetadata : CompiledWorkflowBundle → Except String Unit
  /-- `validate_compiled_module`, for the expected source digest and the
  request of the run. -/
  validateCompiledModule : CompiledWorkflowBundle → Option Digest →
    Option WorkflowCompilationRequest → Except String Unit
  /-- The export and the restart compatibility hash in the descriptor of a
  task definition, if the module has one. -/
  taskDescriptor : Bytes → String → Option (Option String × Option Digest)
  /-- The default entrypoint's export in a compiled module. -/
  compiledEntrypointExport : (moduleBase64 defaultEntrypoint : String) → Except String String
  /-- The task descriptors and the environments in a module can be read. -/
  readsDescriptors : Bytes → Except String Unit
  /-- The Wasm runtime of the coordinator takes a module to run one of its exports. -/
  submitMain : Bytes → (wasmExport : String) → Except String Unit
  /-- The tag and the release URL of the valid publication that the result of a
  main holds. -/
  publication : TaskBoundaryValue → Option (String × String)
  /-- `TaskSpec::validate_boundary_authority`. -/
  validateBoundaryAuthority : TaskSpec → Except String Unit
  /-- `WasmTaskInvocation::validate` for a definition, an instance and arguments. -/
  validateInvocation : TaskDefinitionId → TaskInstanceId → List TaskBoundaryValue →
    Except String Unit

section Validation

variable [BundleInspection]

def WorkflowCompilationRequest.validate (request : WorkflowCompilationRequest) :
    Except String Unit := do
  BundleInspection.validateSource request.source
  validateBoundedText "compiler profile" request.compilerProfile 128
  refuseIf (!request.compilerImage.isValidSha256 || !request.compilerSdk.isValidSha256)
    "compiler image and SDK identities must be SHA-256 digests"
  validateBoundedText "Rust toolchain" request.rustToolchain 128
  request.resourcePolicy.validate

/-- A result has a bundle or a failure code, and never both. -/
def WorkflowCompilationResult.validate (result : WorkflowCompilationResult) :
    Except String Unit := do
  if result.assignmentId.isEmpty || result.assignmentId.utf8ByteSize > 256 ||
      result.assignmentId.toList.any isWhitespace || result.attemptId.isEmpty ||
      result.attemptId.utf8ByteSize > 256 || result.attemptId.toList.any isWhitespace ||
      result.leaseEpoch == 0 then
    throw "compiler result has an invalid assignment fence"
  if result.compilerTranscript.utf8ByteSize > maxCompilerDiagnosticBytes then
    throw "compiler transcript exceeds its bounded limit"
  match result.bundle with
  | some bundle =>
    BundleInspection.validateMetadata bundle
    if result.failureCode.isSome then
      throw "successful compiler result contains a failure code"
  | none =>
    if result.failureCode.isNone then
      throw "failed compiler result omits its failure code"

def SystemTaskResult.validate (result : SystemTaskResult) : Except String Unit := do
  if result.bundleId.isEmpty || result.bundleId.utf8ByteSize > 128 then
    throw "system task result has an invalid bundle id"
  result.result.validate

end Validation

end Clusterflux
