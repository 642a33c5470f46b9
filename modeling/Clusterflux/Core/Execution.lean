import Clusterflux.Core.Capability
import Clusterflux.Foundation.Json

/-!
# Tasks and compiled workflows

The data a task is launched with, the values that cross its boundary, and the
result of compiling a workflow.  Small task values are free-form JSON; larger
ones are named by digests or artifact handles.
-/

namespace Clusterflux

open JsonText (Json)

/-! ## Task boundary values -/

/-- An artifact by what it is: its name, its content and its size. -/
structure ArtifactHandle where
  id : ArtifactId
  digest : Digest
  sizeBytes : ℕ

/-- Data that stays on nodes and crosses a task boundary by name. -/
inductive TaskBoundaryHandle where
  | sourceSnapshot (digest : Digest)
  | blob (digest : Digest)
  | artifact (handle : ArtifactHandle)
  | vfsManifest (digest : Digest)

/-- A JSON value with the handles it refers to. -/
structure StructuredTaskBoundary where
  value : Json
  handles : List TaskBoundaryHandle

/-- An argument or a result of a task. -/
inductive TaskBoundaryValue where
  | smallJson (value : Json)
  | structured (boundary : StructuredTaskBoundary)
  | sourceSnapshot (digest : Digest)
  | blob (digest : Digest)
  | artifact (handle : ArtifactHandle)
  | vfsManifest (digest : Digest)

/-! ## Task specifications -/

inductive WasmExportAbi where
  | entrypointV1
  | taskV1
  deriving DecidableEq

/-- Every task is dispatched through the Wasm ABI between coordinator and node. -/
structure TaskDispatch where
  wasmExport : Option String
  abi : WasmExportAbi

/-- Public, immutable Git revision a node can materialize a source from. -/
structure RepositoryRevision where
  repositoryId : RepositoryId
  cloneUrl : String
  commitSha : String
  sourceSnapshot : Digest
  deriving DecidableEq

/-- What a failed task does to its process. -/
inductive TaskFailurePolicy where
  | failFast
  | awaitOperator
  deriving DecidableEq

/-- Everything that decides where and how a task instance runs. -/
structure TaskSpec where
  tenant : TenantId
  project : ProjectId
  process : ProcessId
  taskDefinition : TaskDefinitionId
  taskInstance : TaskInstanceId
  dispatch : TaskDispatch
  environmentId : Option String
  environment : Option EnvironmentRequirements
  environmentDigest : Option Digest
  requiredCapabilities : Finset Capability
  dependencyCache : Option Digest
  sourceSnapshot : Option Digest
  sourceRevision : Option RepositoryRevision
  requiredArtifacts : List ArtifactId
  args : List TaskBoundaryValue
  /-- Names of project secrets; their values are never part of a specification. -/
  requestedSecrets : List String
  vfsEpoch : ℕ
  failurePolicy : TaskFailurePolicy
  bundleDigest : Option Digest

inductive TaskTerminalState where
  | completed
  | failed
  | cancelled
  deriving DecidableEq

def TaskTerminalState.fromStatusCode : Option ℤ → TaskTerminalState
  | some 0 => .completed
  | _ => .failed

structure SourceLocation where
  sourcePath : String
  line : ℕ
  column : Option ℕ
  probeId : String

inductive SourceProviderKind where
  | filesystem
  | git
  | custom (provider : String)

/-! ## Compiled workflows -/

inductive EnvironmentKind where
  | containerfile
  | dockerfile
  | nixFlake
  deriving DecidableEq

structure EnvironmentContextFile where
  path : String
  mode : ℕ
  size : ℕ
  digest : Digest
  deriving DecidableEq

/-- A named environment with the files it is built from. -/
structure EnvironmentResource where
  name : String
  kind : EnvironmentKind
  recipePath : String
  contextPath : String
  contextManifest : List EnvironmentContextFile
  contextManifestDigest : Digest
  digest : Digest
  requirements : EnvironmentRequirements
  deriving DecidableEq

inductive CompilerProfile where
  | localCargo
  | hostedSandbox
  deriving DecidableEq

structure CompilerDependencyIdentity where
  package : String
  version : String
  features : List String
  digest : Digest
  deriving DecidableEq

/-- The toolchain that a bundle was compiled with. -/
structure CompilerIdentity where
  profile : CompilerProfile
  rustcVersion : String
  rustcCommit : Option String
  target : String
  flags : List String
  sdkVersion : String
  sdkDigest : Digest
  trustedDependencies : List CompilerDependencyIdentity
  sandboxImageDigest : Option Digest
  deriving DecidableEq

/-- A compiled workflow: one Wasm module and all that is said about it. -/
structure CompiledWorkflowBundle where
  moduleBase64 : String
  bundleDigest : Digest
  executionModuleDigest : Digest
  manifestDigest : Digest
  sourceTreeDigest : Digest
  sdkAbiVersion : ℕ
  defaultEntrypoint : String
  entrypoints : List String
  taskDefinitions : List String
  environmentNames : List String
  environments : List EnvironmentResource
  debugMetadataBase64 : String
  debugSidecarDigest : Digest
  pathRemapping : List (String × String)
  compilerIdentity : CompilerIdentity
  sourcePaths : List String
  deriving DecidableEq

/-- What a node answers to a compilation, under the fence of its assignment. -/
structure WorkflowCompilationResult where
  assignmentId : String
  attemptId : String
  leaseEpoch : ℕ
  runId : RunId
  node : NodeId
  bundle : Option CompiledWorkflowBundle
  compilerTranscript : String
  failureCode : Option String
  retryable : Bool

/-- The only release-owned system task is the compilation of a workflow. -/
structure SystemTaskResult where
  bundleId : String
  bundleDigest : Digest
  result : WorkflowCompilationResult

/-! ## Artifact transfers -/

inductive ArtifactAssignmentRole where
  | provider
  | receiver
  deriving DecidableEq

/-- The life of a transfer, up to completion, failure, cancellation or expiry. -/
inductive ArtifactTransferState where
  | requested
  | sourceSelected
  | connecting
  | waitingForDirect
  | transferring
  | verifying
  | completed
  | retrying
  | failed
  | cancelled
  | expired
  deriving DecidableEq

inductive ArtifactTransferErrorCode where
  | noArtifactLocation
  | sourceNodeOffline
  | destinationNodeOffline
  | endpointAdvertisementMissing
  | relayAssistUnavailable
  | directPathTimeout
  | relayPathForbidden
  | connectionFailed
  | peerIdentityMismatch
  | transferLeaseRejected
  | transferLeaseExpired
  | artifactMissingAtSource
  | rangeInvalid
  | destinationDiskFull
  | sizeMismatch
  | digestMismatch
  | transferCancelled
  | capacityUnavailable
  deriving DecidableEq

/-- Socket addresses are kept in their canonical text. -/
structure IrohEndpointAdvertisement where
  tenant : TenantId
  project : ProjectId
  node : NodeId
  endpointId : String
  generation : ℕ
  relayConfigurationGeneration : ℕ
  directAddresses : List String
  relayUrls : List String
  expiresAt : ℕ

end Clusterflux
