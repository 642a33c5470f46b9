import Clusterflux.Core.Auth
import Clusterflux.Core.Automation
import Clusterflux.Core.Scheduling
import Clusterflux.Core.Vfs

/-!
# Durable state

What the coordinator keeps across restarts, and the table of active processes it
keeps in memory beside it.  Tables that no modelled operation reads are left out.
-/

namespace Clusterflux

open Std

/-! ## Keys -/

structure ProcessControlKey where
  tenant : TenantId
  project : ProjectId
  process : ProcessId
  deriving DecidableEq

def ProcessControlKey.toTuple (key : ProcessControlKey) : TenantId × ProjectId × ProcessId :=
  (key.tenant, key.project, key.process)

theorem ProcessControlKey.toTuple_injective : Function.Injective ProcessControlKey.toTuple := by
  rintro ⟨tenant, project, process⟩ ⟨tenant', project', process'⟩ heq
  simpa [ProcessControlKey.toTuple] using heq

instance : Ord ProcessControlKey := ⟨compareOn ProcessControlKey.toTuple⟩

instance : TransOrd ProcessControlKey :=
  inferInstanceAs (TransCmp (compareOn ProcessControlKey.toTuple))

instance : LawfulEqOrd ProcessControlKey where
  eq_of_compare hcompare :=
    ProcessControlKey.toTuple_injective (LawfulEqOrd.eq_of_compare hcompare)

/-- A task instance of a process: the key of attempts and restart checkpoints. -/
structure TaskRestartKey extends ProcessControlKey where
  task : TaskInstanceId
  deriving DecidableEq

def TaskRestartKey.toTuple (key : TaskRestartKey) : ProcessControlKey × TaskInstanceId :=
  (key.toProcessControlKey, key.task)

theorem TaskRestartKey.toTuple_injective : Function.Injective TaskRestartKey.toTuple := by
  rintro ⟨scope, task⟩ ⟨scope', task'⟩ heq
  simpa [TaskRestartKey.toTuple] using heq

instance : Ord TaskRestartKey := ⟨compareOn TaskRestartKey.toTuple⟩

instance : TransOrd TaskRestartKey :=
  inferInstanceAs (TransCmp (compareOn TaskRestartKey.toTuple))

instance : LawfulEqOrd TaskRestartKey where
  eq_of_compare hcompare :=
    TaskRestartKey.toTuple_injective (LawfulEqOrd.eq_of_compare hcompare)

/-- A task instance on a node: the key of active tasks. -/
structure TaskControlKey extends TaskRestartKey where
  node : NodeId
  deriving DecidableEq

/-- Comparison looks at the node before the task. -/
def TaskControlKey.toTuple (key : TaskControlKey) : ProcessControlKey × NodeId × TaskInstanceId :=
  (key.toProcessControlKey, key.node, key.task)

theorem TaskControlKey.toTuple_injective : Function.Injective TaskControlKey.toTuple := by
  rintro ⟨⟨scope, task⟩, node⟩ ⟨⟨scope', task'⟩, node'⟩ heq
  simp only [TaskControlKey.toTuple, Prod.mk.injEq] at heq
  obtain ⟨rfl, rfl, rfl⟩ := heq
  rfl

instance : Ord TaskControlKey := ⟨compareOn TaskControlKey.toTuple⟩

instance : TransOrd TaskControlKey :=
  inferInstanceAs (TransCmp (compareOn TaskControlKey.toTuple))

instance : LawfulEqOrd TaskControlKey where
  eq_of_compare hcompare :=
    TaskControlKey.toTuple_injective (LawfulEqOrd.eq_of_compare hcompare)

/-- The subject of a node's credential: every part is preceded by its length. -/
def NodeScopeKey.credentialSubject (scope : NodeScopeKey) : String :=
  "node:" ++ toString scope.tenant.value.utf8ByteSize ++ ":" ++ scope.tenant.value ++ ":" ++
    toString scope.project.value.utf8ByteSize ++ ":" ++ scope.project.value ++ ":" ++
    toString scope.node.value.utf8ByteSize ++ ":" ++ scope.node.value

/-- The node a task key is on, within its tenant and project. -/
def TaskControlKey.scope (key : TaskControlKey) : NodeScopeKey :=
  ⟨key.tenant, key.project, key.node⟩

/-! ## Records -/

/-- A project and the tenant that owns it.  Projects are kept under their id
alone. -/
structure ProjectRecord where
  id : ProjectId
  tenant : TenantId
  name : String
  deriving DecidableEq

structure NodeIdentityRecord where
  id : NodeId
  tenant : TenantId
  project : ProjectId
  publicKey : String
  enrollmentScope : String
  lastSeenEpochSeconds : Option ℕ

structure AgentPublicKeyRecord where
  tenant : TenantId
  project : ProjectId
  user : UserId
  agent : AgentId
  publicKey : String
  publicKeyFingerprint : Digest
  version : ℕ
  revoked : Bool
  scopes : List String
  humanAccountCreationPrivilege : Bool
  browserInteractionRequiredEachRun : Bool

inductive CredentialKind where
  | browserSession
  | cliDeviceSession
  | publicKey
  | nodeCredential
  | taskCredential
  deriving DecidableEq

/-- One entry of the index of credentials, kept under its subject. -/
structure CredentialRecord where
  subject : String
  tenant : TenantId
  project : Option ProjectId
  kind : CredentialKind
  publicKeyFingerprint : Option Digest

structure CliSessionRecord where
  sessionDigest : Digest
  tenant : TenantId
  project : ProjectId
  user : UserId
  credentialKind : CredentialKind
  expiresAtEpochSeconds : Option ℕ
  revoked : Bool

structure TenantQuotaOverrideValues where
  maxProjects : Option ℕ
  maxNodes : Option ℕ
  maxActiveProcesses : Option ℕ

/-- Retry budget and fencing seed of the compilation of a run. -/
structure AcceptedCommitTriggerRecord where
  tenant : TenantId
  project : ProjectId
  bindingId : String
  bodyDigest : Digest
  trigger : CommitTrigger

structure CompilerAssignmentRetryRecord where
  nextOfferEpoch : ℕ
  attempts : ℕ
  deriving DecidableEq

structure AutomatedRunStageRecord where
  run : AutomatedRunRecord
  runKey : Digest
  source : Option WorkflowSource
  revisionEnvironments : List EnvironmentResource
  revision : Option RepositoryRevision
  compilationRequest : Option WorkflowCompilationRequest
  assignmentRetry : CompilerAssignmentRetryRecord
  compiledBundle : Option CompiledWorkflowBundle
  compiledSummary : Option CompiledWorkflowSummary
  triggerContext : Option TriggerContext
  launchAttempt : Option String
  deriving DecidableEq

inductive AssignmentKind where
  | workflowCompiler (runId : RunId)
  | processTask (process : ProcessId) (task : TaskInstanceId)
  deriving DecidableEq

inductive AssignmentState where
  | pending
  | offered
  | acknowledged
  | running
  | terminal
  deriving DecidableEq

inductive AssignmentMutationResponse where
  | vfsMetadataRecorded (process : ProcessId) (task : TaskInstanceId)
      (artifactPath : Option VfsPath) (largeBytesUploaded : Bool)
  | taskRecorded (process : ProcessId) (task : TaskInstanceId) (eventsRecorded : ℕ)
  | systemTaskRecorded (run : AutomatedRunRecord)

/-- A completed terminal operation, kept so that a retry gets the same answer. -/
structure AssignmentMutationRecord where
  process : ProcessId
  task : TaskInstanceId
  operationId : String
  payloadDigest : Digest
  response : AssignmentMutationResponse

/-- Durable authority of a node over a process task or a system task. -/
structure ActiveAssignmentRecord where
  assignmentId : String
  kind : AssignmentKind
  tenant : TenantId
  project : ProjectId
  node : NodeId
  attemptId : String
  offerEpoch : ℕ
  state : AssignmentState
  offeredAt : ℕ
  acknowledgedAt : Option ℕ
  leaseExpiresAt : ℕ
  terminalMutations : List AssignmentMutationRecord

def ActiveAssignmentRecord.scope (record : ActiveAssignmentRecord) : NodeScopeKey :=
  ⟨record.tenant, record.project, record.node⟩

def ActiveAssignmentRecord.authority (record : ActiveAssignmentRecord) : AssignmentAuthority :=
  ⟨record.assignmentId, record.attemptId, record.offerEpoch⟩

structure TerminalAssignmentRecord where
  assignmentId : String
  tenant : TenantId
  project : ProjectId
  node : NodeId
  attemptId : String
  offerEpoch : ℕ
  terminalAt : ℕ
  replayAllowed : Bool
  terminalMutations : List AssignmentMutationRecord

structure EncryptedProjectSecretRecord where
  tenant : TenantId
  project : ProjectId
  name : String
  ciphertextBase64 : String
  nonceBase64 : String
  keyVersion : ℕ

structure DurableState where
  projects : OrderedMap ProjectId ProjectRecord := ∅
  nodeIdentities : OrderedMap NodeScopeKey NodeIdentityRecord := ∅
  servicePolicyRecords : OrderedMap (TenantId × String) Digest := ∅
  /-- Whether a user may debug the processes of a project. -/
  projectPermissions : OrderedMap (TenantId × ProjectId × UserId) Bool := ∅
  agentPublicKeys : OrderedMap (TenantId × ProjectId × AgentId) AgentPublicKeyRecord := ∅
  credentials : OrderedMap String CredentialRecord := ∅
  cliSessions : OrderedMap Digest CliSessionRecord := ∅
  tenantQuotaOverrides : OrderedMap TenantId TenantQuotaOverrideValues := ∅
  acceptedCommitTriggers : OrderedMap TriggerId AcceptedCommitTriggerRecord := ∅
  /-- The trigger of a delivery, by binding and delivery id. -/
  triggerDeliveries : OrderedMap (String × String) TriggerId := ∅
  automatedRunKeys : OrderedMap Digest RunId := ∅
  automatedRuns : OrderedMap RunId AutomatedRunStageRecord := ∅
  trustedSecretNodes : OrderedMap (TenantId × ProjectId) NodeId := ∅
  activeAssignments : OrderedMap String ActiveAssignmentRecord := ∅
  terminalAssignmentHistory : List TerminalAssignmentRecord := []

/-! ## The coordinator -/

structure ActiveProcess where
  id : ProcessId
  launchAttempt : Option LaunchAttemptId
  tenant : TenantId
  project : ProjectId
  connectedNodes : Finset NodeId
  coordinatorEpoch : ℕ

structure Coordinator where
  durable : DurableState := {}
  activeProcesses : OrderedMap ProcessControlKey ActiveProcess := ∅
  coordinatorEpoch : ℕ := 1

inductive EnrollmentError where
  | expired
  | alreadyConsumed
  | wrongScope

inductive CoordinatorError where
  | unknownNode
  | enrollment (error : EnrollmentError)
  | staleProcessEpoch (staleEpoch currentEpoch : ℕ)
  | unauthorized (message : String)

namespace Coordinator

variable (coordinator : Coordinator)

def activeProcess (key : ProcessControlKey) : Option ActiveProcess :=
  coordinator.activeProcesses[key]?

def project (id : ProjectId) : Option ProjectRecord := coordinator.durable.projects[id]?

section

variable (tenant : TenantId)

/-- Writes the record of a project, whoever owned it before. -/
def upsertProject (id : ProjectId) (name : String) : Coordinator :=
  { coordinator with durable := { coordinator.durable with
      projects := coordinator.durable.projects.insert id ⟨id, tenant, name⟩ } }

def projectCountForTenant : ℕ :=
  coordinator.durable.projects.values.countP fun project => project.tenant = tenant

def grantProjectDebug (project : ProjectId) (user : UserId) : Coordinator :=
  { coordinator with durable := { coordinator.durable with
      projectPermissions :=
        coordinator.durable.projectPermissions.insert (tenant, project, user) true } }

def nodeIdentity (scope : NodeScopeKey) : Option NodeIdentityRecord :=
  coordinator.durable.nodeIdentities[scope]?

def servicePolicyRecord (name : String) : Option Digest :=
  coordinator.durable.servicePolicyRecords[(tenant, name)]?

def tenantSuspended : Bool :=
  (coordinator.servicePolicyRecord tenant "tenant:suspended").isSome

def accountStatus : String :=
  if (coordinator.servicePolicyRecord tenant "tenant:deleted").isSome then "deleted"
  else if (coordinator.servicePolicyRecord tenant "tenant:disabled").isSome then "disabled"
  else if coordinator.tenantSuspended tenant then "suspended"
  else if (coordinator.servicePolicyRecord tenant "tenant:manual_review").isSome then
    "manual_review"
  else "active"

def ensureTenantActive : Except CoordinatorError Unit :=
  if coordinator.accountStatus tenant = "active" then .ok ()
  else .error (.unauthorized
    ("tenant is " ++ coordinator.accountStatus tenant ++ " by admin controls"))

def activeProcessForProject (project : ProjectId) : Option ActiveProcess :=
  coordinator.activeProcesses.values.find? fun active =>
    active.tenant = tenant ∧ active.project = project

def activeProcessCountForTenant : ℕ :=
  (coordinator.activeProcesses.values.filter fun active => active.tenant = tenant).length

def startProcessForLaunchAttempt (key : ProcessControlKey)
    (launchAttempt : Option LaunchAttemptId) : Coordinator :=
  { coordinator with
    activeProcesses := coordinator.activeProcesses.insert key
      { id := key.process
        launchAttempt := launchAttempt
        tenant := key.tenant
        project := key.project
        connectedNodes := ∅
        coordinatorEpoch := coordinator.coordinatorEpoch } }

def authorizeNodeForProcess (node : NodeId) (key : ProcessControlKey) :
    Except CoordinatorError Unit :=
  if ¬ coordinator.durable.nodeIdentities.contains ⟨key.tenant, key.project, node⟩ then
    .error .unknownNode
  else if ¬ coordinator.activeProcesses.contains key then
    .error (.unauthorized "virtual process is not active in coordinator memory")
  else .ok ()

def abortProcess (key : ProcessControlKey) : Except CoordinatorError Coordinator :=
  if coordinator.activeProcesses.contains key then
    .ok { coordinator with activeProcesses := coordinator.activeProcesses.erase key }
  else .error (.unauthorized "process abort requires an active virtual process")

def enrollNode (scope : NodeScopeKey) (publicKey enrollmentScope : String) : Coordinator :=
  { coordinator with durable := { coordinator.durable with
      nodeIdentities := coordinator.durable.nodeIdentities.insert scope
        { id := scope.node
          tenant := scope.tenant
          project := scope.project
          publicKey := publicKey
          enrollmentScope := enrollmentScope
          lastSeenEpochSeconds := none } } }

def nodeIdentityCountForTenant : ℕ :=
  coordinator.durable.nodeIdentities.values.countP fun identity => identity.tenant = tenant

end

def markNodeIdentitySeen (scope : NodeScopeKey) (seenAtEpochSeconds : ℕ) : Coordinator :=
  { coordinator with durable := { coordinator.durable with
      nodeIdentities := coordinator.durable.nodeIdentities.modify scope fun identity =>
        { identity with
          lastSeenEpochSeconds :=
            some (max (identity.lastSeenEpochSeconds.getD 0) seenAtEpochSeconds) } } }

end Coordinator

end Clusterflux
