import Clusterflux.Core.Primitives

/-!
# Replay windows

The registry remembers the nonces of accepted signed requests so that a second
presentation is recognised.  Entries are dropped once they are older than the
signature window.  Agent and administrator entries are dated by the issue time
of the request, node entries by the time of acceptance.
-/

namespace Clusterflux

inductive ReplayAdmissionError where
  | duplicate
  | capacity

structure ReplayRegistry where
  agentNonces : OrderedMap (TenantId × ProjectId × AgentId × String) ℕ := ∅
  nodeNonces : OrderedMap (NodeScopeKey × String) ℕ := ∅
  adminNonces : OrderedMap String ℕ := ∅

namespace ReplayRegistry

/-- An entry dated `moment` is kept as long as its window has not passed. -/
def retained (windowSeconds now moment : ℕ) : Bool :=
  now ≤ saturatingAdd moment windowSeconds

variable (registry : ReplayRegistry)

def admitAdmin (nonce : String)
    (issuedAtEpochSeconds nowEpochSeconds windowSeconds capacity : ℕ) :
    Except ReplayAdmissionError Unit × ReplayRegistry :=
  let registry := { registry with
    adminNonces := registry.adminNonces.filter fun _ issuedAt =>
      retained windowSeconds nowEpochSeconds issuedAt }
  if registry.adminNonces.contains nonce then (.error .duplicate, registry)
  else if registry.adminNonces.size ≥ capacity then (.error .capacity, registry)
  else (.ok (), { registry with
    adminNonces := registry.adminNonces.insert nonce issuedAtEpochSeconds })

def prepareAgent (tenant : TenantId) (project : ProjectId)
    (agent : AgentId) (nonce : String) (nowEpochSeconds windowSeconds : ℕ) :
    Except ReplayAdmissionError Unit × ReplayRegistry :=
  let registry := { registry with
    agentNonces := registry.agentNonces.filter fun _ issuedAt =>
      retained windowSeconds nowEpochSeconds issuedAt }
  if registry.agentNonces.contains (tenant, project, agent, nonce) then
    (.error .duplicate, registry)
  else (.ok (), registry)

def commitAgent (tenant : TenantId) (project : ProjectId)
    (agent : AgentId) (nonce : String) (issuedAtEpochSeconds capacityPerAuthority : ℕ) :
    Except ReplayAdmissionError Unit × ReplayRegistry :=
  let retainedCount := (registry.agentNonces.keys.filter fun key =>
    key.1 = tenant ∧ key.2.1 = project ∧ key.2.2.1 = agent).length
  if retainedCount ≥ capacityPerAuthority then (.error .capacity, registry)
  else (.ok (), { registry with
    agentNonces := registry.agentNonces.insert (tenant, project, agent, nonce)
      issuedAtEpochSeconds })

def pruneNodes (nowEpochSeconds windowSeconds : ℕ) : ReplayRegistry :=
  { registry with
    nodeNonces := registry.nodeNonces.filter fun _ acceptedAt =>
      retained windowSeconds nowEpochSeconds acceptedAt }

variable (scope : NodeScopeKey)

def prepareNode (nonce : String)
    (nowEpochSeconds windowSeconds : ℕ) :
    Except ReplayAdmissionError Unit × ReplayRegistry :=
  let registry := registry.pruneNodes nowEpochSeconds windowSeconds
  if registry.nodeNonces.contains (scope, nonce) then (.error .duplicate, registry)
  else (.ok (), registry)

/-- The number of nonces remembered for a node. -/
def nodeCount : ℕ :=
  (registry.nodeNonces.keys.filter fun key => key.1 = scope).length

def commitNode (nonce : String)
    (acceptedAtEpochSeconds capacityPerAuthority : ℕ) :
    Except ReplayAdmissionError Unit × ReplayRegistry :=
  if registry.nodeCount scope ≥ capacityPerAuthority then (.error .capacity, registry)
  else (.ok (), { registry with
    nodeNonces := registry.nodeNonces.insert (scope, nonce) acceptedAtEpochSeconds })

def clearNode : ReplayRegistry :=
  { registry with nodeNonces := registry.nodeNonces.filter fun key _ => key.1 ≠ scope }

end ReplayRegistry

end Clusterflux
