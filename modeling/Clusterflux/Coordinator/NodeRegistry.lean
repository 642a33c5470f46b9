import Clusterflux.Core.ArtifactTransfer

/-!
# Node registry

Discovery, liveness and drain state of the nodes, the enrollment grants that
have not been exchanged yet, and the endpoints that nodes advertise for moving
artifacts.
-/

namespace Clusterflux

structure EnrollmentGrant where
  tenant : TenantId
  project : ProjectId
  grantId : String
  scope : String
  expiresAtEpochSeconds : ℕ
  consumed : Bool

abbrev EnrollmentGrantKey := TenantId × ProjectId × String

structure NodeRegistry where
  descriptors : OrderedMap NodeScopeKey NodeDescriptor := ∅
  drainStatuses : OrderedMap NodeScopeKey NodeDrainStatus := ∅
  lastSeenEpochSeconds : OrderedMap NodeScopeKey ℕ := ∅
  enrollmentGrants : OrderedMap EnrollmentGrantKey EnrollmentGrant := ∅
  irohEndpointAdvertisements : OrderedMap NodeScopeKey IrohEndpointAdvertisement := ∅
  irohEndpointBindings : OrderedMap String NodeScopeKey := ∅

inductive EndpointAdvertisementError where
  | boundToAnotherScope
  | identityChanged
  | staleGeneration

namespace NodeRegistry

variable (registry : NodeRegistry) (scope : NodeScopeKey)

def descriptor : Option NodeDescriptor := registry.descriptors[scope]?

def recordDescriptor (descriptor : NodeDescriptor) : NodeRegistry :=
  { registry with descriptors := registry.descriptors.insert scope descriptor }

def descriptorCountForProject (tenant : TenantId) (project : ProjectId) : ℕ :=
  registry.descriptors.values.countP fun descriptor =>
    descriptor.tenant = tenant ∧ descriptor.project = project

def pruneEnrollmentGrants (nowEpochSeconds : ℕ) : NodeRegistry :=
  { registry with
    enrollmentGrants := registry.enrollmentGrants.filter fun _ grant =>
      !grant.consumed && nowEpochSeconds ≤ grant.expiresAtEpochSeconds }

def enrollmentGrantCount (tenant : TenantId) (project : ProjectId) : ℕ :=
  registry.enrollmentGrants.values.countP fun grant =>
    grant.tenant = tenant ∧ grant.project = project

def insertEnrollmentGrant (key : EnrollmentGrantKey) (grant : EnrollmentGrant) : NodeRegistry :=
  { registry with enrollmentGrants := registry.enrollmentGrants.insert key grant }

def isLive (nowEpochSeconds staleAfterSeconds : ℕ) : Bool :=
  match registry.lastSeenEpochSeconds[scope]? with
  | none => false
  | some lastSeen => nowEpochSeconds - lastSeen ≤ staleAfterSeconds

/-- Only a non-ephemeral node that had been released comes back by being seen. -/
def markSeen (seenAtEpochSeconds : ℕ) : NodeRegistry :=
  let returning : Bool := match registry.drainStatuses[scope]? with
    | none => false
    | some status => status.state == .released && !status.ephemeral
  { registry with
    drainStatuses :=
      if returning then registry.drainStatuses.erase scope else registry.drainStatuses
    lastSeenEpochSeconds := registry.lastSeenEpochSeconds.insert scope seenAtEpochSeconds
    descriptors := registry.descriptors.modify scope fun descriptor =>
      { descriptor with online := true } }

/-! ## Endpoints -/

def advertisement : Option IrohEndpointAdvertisement :=
  registry.irohEndpointAdvertisements[scope]?

def hasActiveAdvertisement (nowEpochSeconds : ℕ) : Bool :=
  (registry.advertisement scope).any fun advertisement =>
    advertisement.expiresAt > nowEpochSeconds

def removeEndpoint : NodeRegistry :=
  match registry.irohEndpointAdvertisements[scope]? with
  | none => registry
  | some advertisement =>
    { registry with
      irohEndpointAdvertisements := registry.irohEndpointAdvertisements.erase scope
      irohEndpointBindings := registry.irohEndpointBindings.erase advertisement.endpointId }

/-- An endpoint belongs to one scope, and a scope keeps its endpoint. -/
def registerAdvertisement (advertisement : IrohEndpointAdvertisement) :
    Except EndpointAdvertisementError NodeRegistry :=
  if (registry.irohEndpointBindings[advertisement.endpointId]?).any (· ≠ scope) then
    .error .boundToAnotherScope
  else
    let current := registry.irohEndpointAdvertisements[scope]?
    if current.any (·.endpointId ≠ advertisement.endpointId) then .error .identityChanged
    else if current.any (advertisement.generation < ·.generation) then .error .staleGeneration
    else .ok { registry with
      irohEndpointBindings :=
        registry.irohEndpointBindings.insert advertisement.endpointId scope
      irohEndpointAdvertisements :=
        registry.irohEndpointAdvertisements.insert scope advertisement }

def clearAdvertisements : NodeRegistry :=
  { registry with irohEndpointAdvertisements := ∅, irohEndpointBindings := ∅ }

def expireAdvertisements (nowEpochSeconds staleAfterSeconds : ℕ) : NodeRegistry :=
  let expired := registry.irohEndpointAdvertisements.toList.filter fun (scope, advertisement) =>
    advertisement.expiresAt ≤ nowEpochSeconds ||
      !registry.isLive scope nowEpochSeconds staleAfterSeconds
  expired.foldl (fun registry (scope, _) => registry.removeEndpoint scope) registry

def markReleased : NodeRegistry :=
  { registry with
    descriptors := registry.descriptors.modify scope fun descriptor =>
      { descriptor with artifactLocations := ∅, online := false } }.removeEndpoint scope

def removeNode : NodeRegistry :=
  { registry with
    descriptors := registry.descriptors.erase scope
    drainStatuses := registry.drainStatuses.erase scope
    lastSeenEpochSeconds := registry.lastSeenEpochSeconds.erase scope }.removeEndpoint scope

end NodeRegistry

end Clusterflux
