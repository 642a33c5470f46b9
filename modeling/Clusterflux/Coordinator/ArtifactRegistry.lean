import Clusterflux.Coordinator.Credentials

/-!
# Artifact registry

Metadata of the artifacts of a project, the holds that keep an entry from being
evicted, and the download links issued for it.  A project keeps a bounded number
of entries.
-/

namespace Clusterflux

structure ArtifactScopeKey where
  tenant : TenantId
  project : ProjectId
  artifact : ArtifactId
  deriving DecidableEq

def ArtifactScopeKey.toTuple (key : ArtifactScopeKey) : TenantId × ProjectId × ArtifactId :=
  (key.tenant, key.project, key.artifact)

theorem ArtifactScopeKey.toTuple_injective : Function.Injective ArtifactScopeKey.toTuple := by
  rintro ⟨tenant, project, artifact⟩ ⟨tenant', project', artifact'⟩ heq
  simpa [ArtifactScopeKey.toTuple] using heq

instance : Ord ArtifactScopeKey := ⟨compareOn ArtifactScopeKey.toTuple⟩

instance : Std.TransOrd ArtifactScopeKey :=
  inferInstanceAs (Std.TransCmp (compareOn ArtifactScopeKey.toTuple))

instance : Std.LawfulEqOrd ArtifactScopeKey where
  eq_of_compare hcompare :=
    ArtifactScopeKey.toTuple_injective (Std.LawfulEqOrd.eq_of_compare hcompare)

structure ArtifactMetadata where
  id : ArtifactId
  tenant : TenantId
  project : ProjectId
  process : ProcessId
  producerTask : TaskInstanceId
  producerNode : NodeId
  digest : Digest
  size : ℕ
  flushedEpoch : ℕ
  retainingNodes : Finset NodeId
  explicitLocations : List String

def ArtifactMetadata.key (metadata : ArtifactMetadata) : ArtifactScopeKey :=
  ⟨metadata.tenant, metadata.project, metadata.id⟩

inductive ArtifactHoldReason where
  | processRetention (process : ProcessId)
  | consumerTask (process : ProcessId) (task : TaskInstanceId)
  | activeTransfer (transferId : String)
  | restartCheckpoint (process : ProcessId) (task : TaskInstanceId)
  | downloadExport (tokenDigest : Digest)
  | explicitRetention (label : String)
  deriving DecidableEq

/-- The process a hold belongs to, if it ends with the process. -/
def ArtifactHoldReason.process? : ArtifactHoldReason → Option ProcessId
  | .processRetention process => some process
  | .consumerTask process _ => some process
  | .restartCheckpoint process _ => some process
  | .activeTransfer _ | .downloadExport _ | .explicitRetention _ => none

structure ArtifactHold where
  reason : ArtifactHoldReason
  createdAtEpochSeconds : ℕ
  deriving DecidableEq

/-- What the registry looks at in an issued download link. -/
structure IssuedDownloadLink where
  key : ArtifactScopeKey
  scopedTokenDigest : Digest
  expiresAtEpochSeconds : ℕ
  actor : Actor
  maxBytes : ℕ
  revoked : Bool

structure ArtifactFlush where
  key : ArtifactScopeKey
  process : ProcessId
  producerTask : TaskInstanceId
  retainingNode : NodeId
  digest : Digest
  size : ℕ

structure ArtifactRegistry where
  artifacts : OrderedMap ArtifactScopeKey ArtifactMetadata := ∅
  holds : OrderedMap ArtifactScopeKey (Finset ArtifactHold) := ∅
  issuedDownloadLinks : OrderedMap Digest IssuedDownloadLink := ∅
  nextEpoch : ℕ := 0

def maxArtifactMetadataPerProject : ℕ := 1024

def downloadLinkTombstoneSeconds : ℕ := 15 * 60

namespace ArtifactRegistry

variable (registry : ArtifactRegistry)

section

variable (key : ArtifactScopeKey)

def metadata : Option ArtifactMetadata :=
  registry.artifacts[key]?

/-- An unknown artifact takes no hold; a reason is held once. -/
def addHold (reason : ArtifactHoldReason)
    (createdAtEpochSeconds : ℕ) : ArtifactRegistry :=
  let holds := registry.holds[key]?.getD ∅
  if ¬ registry.artifacts.contains key ∨ ∃ hold ∈ holds, hold.reason = reason then registry
  else { registry with
    holds := registry.holds.insert key (insert ⟨reason, createdAtEpochSeconds⟩ holds) }

/-- Drop the holds of the chosen artifacts that have a chosen reason; an entry
left without holds goes. -/
def dropHolds (chosen : ArtifactScopeKey → Bool) (dropped : ArtifactHoldReason → Bool) :
    ArtifactRegistry :=
  { registry with
    holds := registry.holds.filterMap fun key holds =>
      let kept := if chosen key then holds.filter (fun hold => !dropped hold.reason) else holds
      if kept = ∅ then none else some kept }

def removeHold (reason : ArtifactHoldReason) : ArtifactRegistry :=
  registry.dropHolds (· = key) (· = reason)

def releaseProcessHolds (key : ProcessControlKey) : ArtifactRegistry :=
  registry.dropHolds (fun held => held.tenant = key.tenant ∧ held.project = key.project)
    (·.process? = some key.process)

def releaseTaskHolds (key : TaskRestartKey) : ArtifactRegistry :=
  registry.dropHolds (fun held => held.tenant = key.tenant ∧ held.project = key.project)
    (· = .consumerTask key.process key.task)

def releaseRestartCheckpointHolds (key : TaskRestartKey) : ArtifactRegistry :=
  registry.dropHolds (fun held => held.tenant = key.tenant ∧ held.project = key.project)
    (· = .restartCheckpoint key.process key.task)

/-- The oldest entry of a project that nothing keeps. -/
def projectMetadataEvictionCandidate (tenant : TenantId) (project : ProjectId)
    (pinned : Finset ArtifactScopeKey) (protectedProcesses : Finset ProcessId) :
    Option ArtifactScopeKey :=
  let candidates := registry.artifacts.values.filter fun metadata =>
    metadata.tenant = tenant ∧ metadata.project = project ∧ metadata.key ∉ pinned ∧
      metadata.process ∉ protectedProcesses ∧
      (registry.holds[metadata.key]?.getD ∅) = ∅ ∧ metadata.explicitLocations = [] ∧
      ¬ registry.issuedDownloadLinks.values.any fun issued =>
        !issued.revoked && issued.key = metadata.key
  (candidates.argmin fun metadata => metadata.flushedEpoch).map (·.key)

def removeEntry : ArtifactRegistry :=
  { registry with
    artifacts := registry.artifacts.erase key
    holds := registry.holds.erase key }

end

def projectCount (tenant : TenantId) (project : ProjectId) : ℕ :=
  registry.artifacts.values.countP fun metadata =>
    metadata.tenant = tenant ∧ metadata.project = project

/-- The entry a new flush has to evict: nothing while there is room, otherwise a
candidate outside the protected processes, or an error. -/
def flushEviction (flush : ArtifactFlush) (pinned : Finset ArtifactScopeKey)
    (protectedProcesses : Finset ProcessId) : Except String (Option ArtifactScopeKey) :=
  if registry.artifacts.contains flush.key ∨
      registry.projectCount flush.key.tenant flush.key.project <
        maxArtifactMetadataPerProject then .ok none
  else
    match registry.projectMetadataEvictionCandidate flush.key.tenant flush.key.project pinned
        (insert flush.process protectedProcesses) with
    | some key => .ok (some key)
    | none => .error
        "artifact metadata capacity of 1024 is exhausted by active or retained artifacts"

def flushMetadataWithProtectedProcesses (flush : ArtifactFlush)
    (pinned : Finset ArtifactScopeKey) (protectedProcesses : Finset ProcessId) :
    Except String ArtifactRegistry :=
  (registry.flushEviction flush pinned protectedProcesses).map fun eviction =>
    let epoch := saturatingAdd registry.nextEpoch 1
    let registry := match eviction with
      | some key => registry.removeEntry key
      | none => registry
    let registry := { registry with
      nextEpoch := epoch
      artifacts := registry.artifacts.insert flush.key
        { id := flush.key.artifact
          tenant := flush.key.tenant
          project := flush.key.project
          process := flush.process
          producerTask := flush.producerTask
          producerNode := flush.retainingNode
          digest := flush.digest
          size := flush.size
          flushedEpoch := epoch
          retainingNodes := {flush.retainingNode}
          explicitLocations := [] } }
    registry.addHold flush.key (.processRetention flush.process) epoch

/-- Evict entries of a project over its limit, as long as there is a candidate. -/
def enforceProjectMetadataLimit (tenant : TenantId) (project : ProjectId)
    (pinned : Finset ArtifactScopeKey) (protectedProcesses : Finset ProcessId) :
    ArtifactRegistry :=
  (List.range (registry.projectCount tenant project - maxArtifactMetadataPerProject)).foldl
    (fun registry _ =>
      match registry.projectMetadataEvictionCandidate tenant project pinned
          protectedProcesses with
      | some key => registry.removeEntry key
      | none => registry)
    registry

def garbageCollectNode (scope : NodeScopeKey) : ArtifactRegistry :=
  { registry with
    artifacts := registry.artifacts.map fun _ metadata =>
      if metadata.tenant = scope.tenant ∧ metadata.project = scope.project then
        { metadata with retainingNodes := metadata.retainingNodes.erase scope.node }
      else metadata }

def reconcileNodeRetention (scope : NodeScopeKey) (retainedArtifacts : Finset ArtifactId) :
    ArtifactRegistry :=
  { registry with
    artifacts := registry.artifacts.map fun key metadata =>
      if key.tenant = scope.tenant ∧ key.project = scope.project then
        { metadata with
          retainingNodes :=
            if key.artifact ∈ retainedArtifacts then insert scope.node metadata.retainingNodes
            else metadata.retainingNodes.erase scope.node }
      else metadata }

def expireDownloadLinks (nowEpochSeconds : ℕ) : ArtifactRegistry :=
  let expired := registry.issuedDownloadLinks.values.filter fun issued =>
    issued.expiresAtEpochSeconds < nowEpochSeconds
  let registry := expired.foldl
    (fun registry issued => registry.removeHold issued.key
      (.downloadExport issued.scopedTokenDigest)) registry
  { registry with
    issuedDownloadLinks := registry.issuedDownloadLinks.filter fun _ issued =>
      nowEpochSeconds ≤
        saturatingAdd issued.expiresAtEpochSeconds downloadLinkTombstoneSeconds }

end ArtifactRegistry

/-! ## Download links -/

structure DownloadPolicy where
  maxBytes : ℕ

inductive DownloadError where
  | notFound
  | unavailable
  | directConnectivityUnavailable (message : String)
  | unauthorized (message : String)
  | limitExceeded (size limit : ℕ)
  | invalidToken
  | usage (message : String)

inductive StorageLocation where
  | retainedNode (node : NodeId)
  | explicitStore (location : String)

def StorageLocation.key : StorageLocation → String
  | .retainedNode node => "retained-node:" ++ node.value
  | .explicitStore location => "explicit-store:" ++ location

structure DownloadAction where
  artifact : ArtifactId
  source : StorageLocation
  scopedTokenSubject : String

def Actor.subject : Actor → String
  | .user id => "user:" ++ id.value
  | .agent id => "agent:" ++ id.value
  | .node id => "node:" ++ id.value
  | .task id => "task:" ++ id.value

def maxIssuedDownloadLinksPerArtifact : ℕ := 32

/-- A node that retains the artifact, the first in order, or else the first
explicit location. -/
def ArtifactMetadata.source (metadata : ArtifactMetadata) : Option StorageLocation :=
  ((orderedList metadata.retainingNodes).head?.map StorageLocation.retainedNode).or
    (metadata.explicitLocations.head?.map StorageLocation.explicitStore)

def ArtifactMetadata.scopedTokenSubject (metadata : ArtifactMetadata) : String :=
  metadata.tenant.value ++ "/" ++ metadata.project.value ++ "/" ++ metadata.process.value ++ "/" ++
    metadata.id.value

/-- A download needs the tenant and project of the artifact. -/
def sameTenantProject (context : AuthContext) (tenant : TenantId) (project : ProjectId) :
    Except String Unit :=
  if context.tenant ≠ tenant then .error "tenant mismatch"
  else if context.project ≠ project then .error "project mismatch"
  else .ok ()

section DownloadDigests

open LengthFraming

variable [Primitives]

def downloadPolicyContextDigest (metadata : ArtifactMetadata) (source : StorageLocation)
    (policy : DownloadPolicy) : Digest :=
  Digest.fromParts ([ "artifact-download-policy-context:v1", metadata.tenant.value,
    metadata.project.value, metadata.process.value, metadata.id.value, metadata.digest.text,
    toString metadata.size, source.key, toString policy.maxBytes].map utf8)

def downloadTokenDigest (metadata : ArtifactMetadata) (action : DownloadAction) (actor : Actor)
    (policy : DownloadPolicy) (tokenNonce : String) (expiresAtEpochSeconds : ℕ) : Digest :=
  Digest.fromParts ([ "artifact-download-token:v2", action.scopedTokenSubject, actor.subject,
    tokenNonce, metadata.digest.text, toString metadata.size,
    (downloadPolicyContextDigest metadata action.source policy).text,
    toString expiresAtEpochSeconds].map utf8)

end DownloadDigests

namespace ArtifactRegistry

variable (registry : ArtifactRegistry)

def downloadAction (context : AuthContext) (artifact : ArtifactId) (policy : DownloadPolicy) :
    Except DownloadError DownloadAction :=
  match registry.artifacts[(⟨context.tenant, context.project, artifact⟩ : ArtifactScopeKey)]? with
  | none => .error .notFound
  | some metadata => do
      (sameTenantProject context metadata.tenant metadata.project).mapError .unauthorized
      if metadata.size > policy.maxBytes then .error (.limitExceeded metadata.size policy.maxBytes)
      match metadata.source with
      | none => .error .unavailable
      | some source => .ok ⟨artifact, source, metadata.scopedTokenSubject⟩

/-- The links of an artifact, lapsed and revoked ones among them. -/
def linkCount (key : ArtifactScopeKey) : ℕ :=
  registry.issuedDownloadLinks.values.countP (·.key = key)

/-- Lapsed links go first, also when no link is created. -/
def createDownloadLink [Primitives] (context : AuthContext) (artifact : ArtifactId)
    (policy : DownloadPolicy) (tokenNonce : String) (nowEpochSeconds ttlSeconds : ℕ) :
    Except DownloadError IssuedDownloadLink × ArtifactRegistry :=
  let registry := registry.expireDownloadLinks nowEpochSeconds
  let key : ArtifactScopeKey := ⟨context.tenant, context.project, artifact⟩
  if registry.linkCount key ≥ maxIssuedDownloadLinksPerArtifact then
    (.error (.usage "artifact download session limit reached; revoke a link or wait for expiry"),
      registry)
  else
    match registry.downloadAction context artifact policy, registry.artifacts[key]? with
    | .error error, _ => (.error error, registry)
    | .ok _, none => (.error .notFound, registry)
    | .ok action, some metadata =>
      let expiresAtEpochSeconds := saturatingAdd nowEpochSeconds ttlSeconds
      let issued : IssuedDownloadLink :=
        { key := ⟨metadata.tenant, metadata.project, artifact⟩
          scopedTokenDigest := downloadTokenDigest metadata action context.actor policy
            tokenNonce expiresAtEpochSeconds
          expiresAtEpochSeconds := expiresAtEpochSeconds
          actor := context.actor
          maxBytes := policy.maxBytes
          revoked := false }
      let registry := { registry with
        issuedDownloadLinks :=
          registry.issuedDownloadLinks.insert issued.scopedTokenDigest issued }
      (.ok issued, registry.addHold issued.key (.downloadExport issued.scopedTokenDigest)
        nowEpochSeconds)

def revokeDownloadLink (context : AuthContext) (artifact : ArtifactId)
    (presentedTokenDigest : Digest) : Except DownloadError IssuedDownloadLink × ArtifactRegistry :=
  match registry.issuedDownloadLinks[presentedTokenDigest]? with
  | none => (.error .invalidToken, registry)
  | some issued =>
    if issued.key ≠ ⟨context.tenant, context.project, artifact⟩ ∨
        issued.actor ≠ context.actor then (.error .invalidToken, registry)
    else
      match registry.downloadAction context artifact ⟨issued.maxBytes⟩ with
      | .error error => (.error error, registry)
      | .ok _ =>
        let registry := { registry with
          issuedDownloadLinks := registry.issuedDownloadLinks.insert presentedTokenDigest
            { issued with revoked := true } }
        (.ok issued, registry.removeHold issued.key
          (.downloadExport issued.scopedTokenDigest))

end ArtifactRegistry

end Clusterflux
