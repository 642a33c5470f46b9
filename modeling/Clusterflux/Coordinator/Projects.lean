import Clusterflux.Coordinator.Nodes

/-!
# Projects, agent keys and sessions

Projects are kept under their identifier alone, so every request that writes one
has to see to it that the project does not belong to another tenant.  Requests
come in two forms: with the tenant and the user in the request, or under a CLI
session that fixes them.
-/

namespace Clusterflux

open StatefulProgram Checks LengthFraming Handler

/-! ## Creation and selection -/

/-- The limit of projects counts when a project is created by request. -/
def ensureProjectAdmission (tenant : TenantId) : Handler Unit := do
  let service ← Handler.service
  let current := service.coordinator.projectCountForTenant tenant
  let maximum := (service.quota.effectiveAdmissionLimits
    service.durable.tenantQuotaOverrides[tenant]?).maxProjects
  ensure (current < maximum) (.error (.projectQuota current maximum))

/-- A project that exists must be one of the tenant. -/
def ensureProjectOwner (tenant : TenantId) (project : ProjectId) (message : String) :
    Handler Unit := do
  let service ← Handler.service
  ensure ((service.coordinator.project project).all (·.tenant = tenant)) (unauthorized message)

def createProject (tenant : TenantId) (actor : UserId) (project : ProjectId)
    (name outsideScope : String) : Handler CoordinatorResponse := do
  ensureTenantActive tenant
  ensureProjectOwner tenant project outsideScope
  let service ← Handler.service
  runIf (service.coordinator.project project = none) (ensureProjectAdmission tenant)
  modifyCoordinator (·.upsertProject tenant project name)
  modifyCoordinator (·.grantProjectDebug tenant project actor)
  persistDurableState
  let service ← Handler.service
  let record ← orFail (service.coordinator.project project)
    (.panicked "project was just created")
  return .projectCreated record actor

def handleCreateProject (tenant actorUser project name : String) :
    Handler CoordinatorResponse := do
  let tenant ← newId .tenant tenant
  let actor ← newId .user actorUser
  let project ← newId .project project
  createProject tenant actor project name "project id is outside the signed-in tenant scope"

/-! ## Agent keys -/

section Keys

variable [Primitives]

/-- Registers or rotates the key of an agent.  The project is written under the
name `local`, also when it exists under another. -/
def handleRegisterAgentPublicKey (tenant project user agent publicKey : String) :
    Handler CoordinatorResponse := do
  let tenant ← newId .tenant tenant
  let project ← newId .project project
  let actor ← newId .user user
  let agent ← newId .agent agent
  ensureTenantActive tenant
  ensureProjectOwner tenant project "project id is outside the signed-in tenant scope"
  modifyCoordinator (·.upsertProject tenant project "local")
  let service ← Handler.service
  let (record, coordinator) := service.coordinator.registerAgentPublicKey tenant project actor
    agent publicKey
  modifyCoordinator fun _ => coordinator
  persistDurableState
  return .agentPublicKey record actor

def handleRevokeAgentPublicKey (tenant project user agent : String) :
    Handler CoordinatorResponse := do
  let tenant ← newId .tenant tenant
  let project ← newId .project project
  let actor ← newId .user user
  let agent ← newId .agent agent
  let service ← Handler.service
  let (record, coordinator) ← liftExcept (service.coordinator.revokeAgentPublicKey
    ⟨tenant, project, .user actor⟩ agent) coordinatorFailure
  modifyCoordinator fun _ => coordinator
  persistDurableState
  return .agentPublicKey record actor

/-! ## Sessions -/

def Coordinator.authenticateCliSession (coordinator : Coordinator) (sessionSecret : String)
    (nowEpochSeconds : ℕ) : Except CoordinatorError AuthContext := do
  refuseIf (isBlank sessionSecret) (.unauthorized "CLI session credential is missing")
  match coordinator.durable.cliSessions[Digest.sha256 (utf8 sessionSecret)]? with
  | none => .error (.unauthorized "CLI session credential is not recognized")
  | some record => do
      refuseIf record.revoked (.unauthorized "CLI session credential has been revoked")
      refuseIf (record.expiresAtEpochSeconds.any (· ≤ nowEpochSeconds))
        (.unauthorized
          "CLI session credential has expired; run clusterflux login --browser again")
      refuseIf (record.credentialKind ≠ .cliDeviceSession)
        (.unauthorized "credential is not a CLI session")
      coordinator.ensureTenantActive record.tenant
      return ⟨record.tenant, record.project, .user record.user⟩

/-- A session for a project that does not exist yet creates it. -/
def issueCliSession (tenant : TenantId) (project : ProjectId) (user : UserId)
    (sessionSecret : String) (expiresAtEpochSeconds : Option ℕ) : Handler CliSessionRecord := do
  ensureTenantActive tenant
  ensureProjectOwner tenant project "CLI session project belongs to a different tenant"
  let service ← Handler.service
  runIf (service.coordinator.project project = none)
    (modifyCoordinator (·.upsertProject tenant project "Session project"))
  modifyCoordinator (·.grantProjectDebug tenant project user)
  let service ← Handler.service
  let (record, coordinator) := service.coordinator.issueCliSession tenant project user
    sessionSecret expiresAtEpochSeconds
  modifyCoordinator fun _ => coordinator
  persistDurableState
  return record

def authenticatedUser (operation : String) : Actor → Handler UserId
  | .user user => pure user
  | _ => throw (unauthorized
      ("authenticated " ++ operation ++ " request requires a user CLI session"))

/-- Every authenticated request is charged to the project of its session. -/
def authenticateRequest (sessionSecret operation : String) :
    Handler (AuthContext × UserId) := do
  let seenAt ← livenessNowEpochSeconds
  let service ← Handler.service
  let context ← liftExcept (service.coordinator.authenticateCliSession sessionSecret seenAt)
    coordinatorFailure
  let actor ← authenticatedUser operation context.actor
  let now ← currentEpochSeconds
  let service ← Handler.service
  let charge := service.quota.charge context.tenant context.project .apiCall 1 now
  modifyQuota fun _ => charge.2
  liftExcept charge.1 fun error => .error (.resource error)
  return (context, actor)

def handleAuthenticatedCreateProject (sessionSecret project name : String) :
    Handler CoordinatorResponse := do
  let (context, actor) ← authenticateRequest sessionSecret "create_project"
  let project ← newId .project project
  createProject context.tenant actor project name
    "project id is outside the authenticated tenant scope"

end Keys

end Clusterflux
