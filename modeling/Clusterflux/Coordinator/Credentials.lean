import Clusterflux.Coordinator.Durable
import Clusterflux.Coordinator.NodeRegistry

/-!
# Credentials

CLI sessions, agents and nodes share one index of credential records, keyed by a
subject text.  Each kind builds its subject in its own way: sessions from the
digest of their secret, agents by joining their identifiers with colons, nodes
by preceding every identifier with its length.
-/

namespace Clusterflux

open LengthFraming

inductive Actor where
  | user (user : UserId)
  | agent (agent : AgentId)
  | node (node : NodeId)
  | task (task : TaskInstanceId)
  deriving DecidableEq

structure AuthContext where
  tenant : TenantId
  project : ProjectId
  actor : Actor

structure NodeCredential where
  node : NodeId
  tenant : TenantId
  project : ProjectId
  publicKeyFingerprint : Digest
  scope : String
  capabilityPolicyDigest : Digest
  credentialKind : CredentialKind

variable [Primitives]

def cliSessionSubject (sessionDigest : Digest) : String :=
  "cli-session:" ++ sessionDigest.text

def agentSubject (tenant : TenantId) (project : ProjectId) (agent : AgentId) : String :=
  "agent:" ++ tenant.value ++ ":" ++ project.value ++ ":" ++ agent.value

def nodeCapabilityPolicyDigest (tenant : TenantId) (project : ProjectId) (scope : String) :
    Digest :=
  Digest.fromParts [utf8 "node-capability-policy:v1", utf8 tenant.value, utf8 project.value,
    utf8 scope]

def EnrollmentGrant.exchangeForNodeIdentity (grant : EnrollmentGrant) (node : NodeId)
    (publicKey requestedScope : String) (nowEpochSeconds : ℕ) :
    Except EnrollmentError (NodeCredential × EnrollmentGrant) :=
  if grant.consumed then .error .alreadyConsumed
  else if nowEpochSeconds > grant.expiresAtEpochSeconds then .error .expired
  else if requestedScope ≠ grant.scope then .error .wrongScope
  else .ok
    ({ node := node
       tenant := grant.tenant
       project := grant.project
       publicKeyFingerprint := Digest.sha256 (utf8 publicKey)
       scope := grant.scope
       capabilityPolicyDigest :=
        nodeCapabilityPolicyDigest grant.tenant grant.project grant.scope
       credentialKind := .nodeCredential },
      { grant with consumed := true })

namespace Coordinator

variable (coordinator : Coordinator)

/-- Enter a record into the index under its subject. -/
def insertCredential (record : CredentialRecord) : Coordinator :=
  { coordinator with durable := { coordinator.durable with
      credentials := coordinator.durable.credentials.insert record.subject record } }

def issueCliSession (tenant : TenantId) (project : ProjectId) (user : UserId)
    (sessionSecret : String) (expiresAtEpochSeconds : Option ℕ) :
    CliSessionRecord × Coordinator :=
  let sessionDigest := Digest.sha256 (utf8 sessionSecret)
  let record : CliSessionRecord :=
    { sessionDigest := sessionDigest
      tenant := tenant
      project := project
      user := user
      credentialKind := .cliDeviceSession
      expiresAtEpochSeconds := expiresAtEpochSeconds
      revoked := false }
  let coordinator := { coordinator with durable := { coordinator.durable with
    cliSessions := coordinator.durable.cliSessions.insert sessionDigest record } }
  (record, coordinator.insertCredential
    { subject := cliSessionSubject sessionDigest
      tenant := tenant
      project := some project
      kind := .cliDeviceSession
      publicKeyFingerprint := none })

/-- Registers a key, or rotates it: the version of a registered key goes up. -/
def registerAgentPublicKey (tenant : TenantId) (project : ProjectId) (user : UserId)
    (agent : AgentId) (publicKey : String) : AgentPublicKeyRecord × Coordinator :=
  let key := (tenant, project, agent)
  let version := match coordinator.durable.agentPublicKeys[key]? with
    | none => 1
    | some record => saturatingAdd record.version 1
  let publicKeyFingerprint := Digest.sha256 (utf8 publicKey)
  let record : AgentPublicKeyRecord :=
    { tenant := tenant
      project := project
      user := user
      agent := agent
      publicKey := publicKey
      publicKeyFingerprint := publicKeyFingerprint
      version := version
      revoked := false
      scopes := ["project:read", "project:run"]
      humanAccountCreationPrivilege := false
      browserInteractionRequiredEachRun := false }
  let coordinator := { coordinator with durable := { coordinator.durable with
    agentPublicKeys := coordinator.durable.agentPublicKeys.insert key record } }
  (record, coordinator.insertCredential
    { subject := agentSubject tenant project agent
      tenant := tenant
      project := some project
      kind := .publicKey
      publicKeyFingerprint := some publicKeyFingerprint })

def revokeAgentPublicKey (context : AuthContext) (agent : AgentId) :
    Except CoordinatorError (AgentPublicKeyRecord × Coordinator) :=
  let key := (context.tenant, context.project, agent)
  match coordinator.durable.agentPublicKeys[key]? with
  | none => .error (.unauthorized "agent public key is not registered for this project")
  | some record =>
    match context.actor with
    | .user user =>
      if record.user ≠ user then
        .error (.unauthorized "agent public key is outside the signed-in user scope")
      else
        let revoked := { record with revoked := true }
        .ok (revoked, { coordinator with durable := { coordinator.durable with
          agentPublicKeys := coordinator.durable.agentPublicKeys.insert key revoked
          credentials := coordinator.durable.credentials.erase
            (agentSubject context.tenant context.project record.agent) } })
    | _ => .error (.unauthorized "agent public-key revocation requires a user identity")

/-- Removes the identity and the credential and disconnects the node from the
project's processes. -/
def revokeNodeCredential (context : AuthContext) (node : NodeId) :
    Except CoordinatorError Coordinator :=
  let scope : NodeScopeKey := ⟨context.tenant, context.project, node⟩
  if ¬ coordinator.durable.nodeIdentities.contains scope then .error .unknownNode
  else match context.actor with
    | .user _ => .ok { coordinator with
        durable := { coordinator.durable with
          nodeIdentities := coordinator.durable.nodeIdentities.erase scope
          credentials := coordinator.durable.credentials.erase scope.credentialSubject }
        activeProcesses := coordinator.activeProcesses.map fun _ active =>
          if active.tenant = scope.tenant ∧ active.project = scope.project then
            { active with connectedNodes := active.connectedNodes.erase scope.node }
          else active }
    | _ => .error (.unauthorized "node credential revocation requires a user identity")

def exchangeNodeEnrollmentGrant (grant : EnrollmentGrant) (node : NodeId)
    (publicKey requestedScope : String) (nowEpochSeconds : ℕ) :
    Except CoordinatorError (NodeCredential × Coordinator) :=
  match grant.exchangeForNodeIdentity node publicKey requestedScope nowEpochSeconds with
  | .error error => .error (.enrollment error)
  | .ok (credential, _) =>
    let scope : NodeScopeKey := ⟨credential.tenant, credential.project, node⟩
    .ok (credential, (coordinator.enrollNode scope publicKey credential.scope).insertCredential
      { subject := scope.credentialSubject
        tenant := credential.tenant
        project := some credential.project
        kind := credential.credentialKind
        publicKeyFingerprint := some credential.publicKeyFingerprint })

end Coordinator

end Clusterflux
