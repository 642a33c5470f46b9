import Clusterflux.Core.Primitives

/-!
# Nodes: capabilities, descriptors and drain status

The facts a node reports about itself and the facts the coordinator keeps about
it.  Sets of the source are finite sets; where the source iterates over a set of
capabilities the order is that of the declaration.
-/

namespace Clusterflux

inductive Capability where
  | command
  | containers
  | rootlessPodman
  | containerdNerdctl
  | sourceFilesystem
  | sourceGit
  | hostFilesystem
  | network
  | secrets
  | inboundPorts
  | arbitrarySyscalls
  | vfsArtifacts
  | artifactTransfer
  | windowsCommandDev
  deriving DecidableEq

/-- All capabilities in the order of the declaration, which is the iteration
order of a set of them. -/
def Capability.all : List Capability :=
  [.command, .containers, .rootlessPodman, .containerdNerdctl, .sourceFilesystem,
    .sourceGit, .hostFilesystem, .network, .secrets, .inboundPorts,
    .arbitrarySyscalls, .vfsArtifacts, .artifactTransfer, .windowsCommandDev]

theorem Capability.mem_all (capability : Capability) : capability ∈ Capability.all := by
  cases capability <;> decide

/-- The variant name, as printed in placement messages and on the wire. -/
def Capability.name : Capability → String
  | .command => "Command"
  | .containers => "Containers"
  | .rootlessPodman => "RootlessPodman"
  | .containerdNerdctl => "ContainerdNerdctl"
  | .sourceFilesystem => "SourceFilesystem"
  | .sourceGit => "SourceGit"
  | .hostFilesystem => "HostFilesystem"
  | .network => "Network"
  | .secrets => "Secrets"
  | .inboundPorts => "InboundPorts"
  | .arbitrarySyscalls => "ArbitrarySyscalls"
  | .vfsArtifacts => "VfsArtifacts"
  | .artifactTransfer => "ArtifactTransfer"
  | .windowsCommandDev => "WindowsCommandDev"

/-- The members of a set of capabilities in iteration order. -/
def Capability.ordered (capabilities : Finset Capability) : List Capability :=
  Capability.all.filter (· ∈ capabilities)

inductive NodeWorkPolicy where
  | normal
  | executionOnly
  | systemTasksOnly
  deriving DecidableEq

inductive SystemTaskSandbox where
  | rootlessPodman
  | gvisor
  | dedicatedVm

/-- A system task that a node can run, and its limits. -/
structure SystemBundleCapability where
  bundleId : String
  bundleDigest : Digest
  sdkAbiVersion : ℕ
  wasmTarget : String
  rustToolchain : String
  environmentDigest : Digest
  sandbox : SystemTaskSandbox
  maxSourceBytes : ℕ
  maxOutputBytes : ℕ
  maxConcurrentAssignments : ℕ

inductive EnvironmentBackend where
  | container
  | nixFlake
  | windowsCommandDev
  deriving DecidableEq

inductive Os where
  | linux
  | windows
  | macos
  | other (label : String)
  deriving DecidableEq

/-- The debug rendering used in placement messages. -/
def Os.debug : Os → String
  | .linux => "Linux"
  | .windows => "Windows"
  | .macos => "Macos"
  | .other label => "Other(" ++ label.quote ++ ")"

/-- What a node reports that it can do. -/
structure NodeCapabilities where
  os : Os
  arch : String
  capabilities : Finset Capability
  environmentBackends : Finset EnvironmentBackend
  sourceProviders : Finset String
  workPolicy : NodeWorkPolicy
  systemBundles : List SystemBundleCapability

/-! ## Reports of capabilities -/

def isLabelCharacter (char : Char) : Bool :=
  char.isAlphanum || char == '-' || char == '_' || char == '.'

def validCapabilityLabel (label : String) : Bool :=
  label ≠ "" && label.utf8ByteSize ≤ 64 && label.toList.all isLabelCharacter

def validSourceProviderId (provider : String) : Bool :=
  provider ≠ "" && provider.utf8ByteSize ≤ 64 &&
    provider.toList.all fun char => isLabelCharacter char && !char.isUpper

def SystemBundleCapability.isValid (profile : SystemBundleCapability) : Bool :=
  validCapabilityLabel profile.bundleId && profile.bundleDigest.isValidSha256 &&
    profile.sdkAbiVersion ≠ 0 && profile.wasmTarget = "wasm32-unknown-unknown" &&
    !isBlank profile.rustToolchain && profile.environmentDigest.isValidSha256 &&
    profile.maxSourceBytes ≠ 0 && profile.maxOutputBytes ≠ 0 &&
    profile.maxConcurrentAssignments ≠ 0

inductive CapabilityReportError where
  | invalidArchitecture (arch : String)
  | invalidOsLabel (label : String)
  | invalidSourceProvider (provider : String)
  | invalidSystemBundle (problem : String)

def NodeCapabilities.validatePublicReport (capabilities : NodeCapabilities) :
    Except CapabilityReportError Unit := do
  if !validCapabilityLabel capabilities.arch then
    .error (.invalidArchitecture capabilities.arch)
  match capabilities.os with
  | .other label => if !validCapabilityLabel label then .error (.invalidOsLabel label)
  | _ => .ok ()
  match (orderedList capabilities.sourceProviders).find? fun provider =>
      !validSourceProviderId provider with
  | some provider => .error (.invalidSourceProvider provider)
  | none => .ok ()
  if !capabilities.systemBundles.all (·.isValid) then
    .error (.invalidSystemBundle "metadata or limits are invalid")
  if ¬ (capabilities.systemBundles.map fun profile =>
      (profile.bundleId, profile.bundleDigest)).Nodup then
    .error (.invalidSystemBundle "duplicate system bundle identity")

/-- What an environment asks of the node that runs it. -/
structure EnvironmentRequirements where
  os : Option Os
  arch : Option String
  capabilities : Finset Capability
  secretDeclarations : Finset String
  deriving DecidableEq

/-! ## Descriptors -/

inductive ArtifactRelayPolicy where
  | directRequired
  | relayFallbackAllowed
  deriving DecidableEq

inductive ClusterfluxPathKind where
  | local
  | direct
  | relayed
  | unknown
  deriving DecidableEq

/-- What is known about the transfers of a node. -/
structure ArtifactConnectivityFacts where
  endpointAdvertised : Bool := false
  recentPath : ClusterfluxPathKind := .unknown
  recentDirectFailure : Bool := false
  relayPolicy : ArtifactRelayPolicy := .directRequired

/-- A node as the scheduler sees it. -/
structure NodeDescriptor where
  id : NodeId
  tenant : TenantId
  project : ProjectId
  capabilities : NodeCapabilities
  cachedEnvironments : Finset Digest
  dependencyCaches : Finset Digest
  sourceSnapshots : Finset Digest
  artifactLocations : Finset ArtifactId
  artifactConnectivity : ArtifactConnectivityFacts
  online : Bool

def NodeDescriptor.scope (descriptor : NodeDescriptor) : NodeScopeKey :=
  ⟨descriptor.tenant, descriptor.project, descriptor.id⟩

/-! ## Drain status -/

inductive NodeLifecycleState where
  | active
  | draining
  | readyToRelease
  | released
  deriving DecidableEq

structure NodeDrainStatus where
  state : NodeLifecycleState
  ephemeral : Bool

end Clusterflux
